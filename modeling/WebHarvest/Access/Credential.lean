import WebHarvest.Text.Ascii
import WebHarvest.Text.Radix
import WebHarvest.Text.Utf8

/-! Credentials for one domain each, the challenges that they answer, and the authorization field
that presents them. -/

namespace WebHarvest.Access

/-- Challenges by their realm, each realm once. A challenge without a realm has the empty one. -/
structure Challenges where
  entries : List (String × String)
  deriving DecidableEq, Repr

namespace Challenges

/-- No challenge. -/
def empty : Challenges := ⟨[]⟩

instance : Inhabited Challenges := ⟨empty⟩

/-- The challenge of a realm. -/
def get? (challenges : Challenges) (realm : String) : Option String :=
  (challenges.entries.find? (·.1 == realm)).map (·.2)

/-- Whether a realm is challenged. -/
def contains (challenges : Challenges) (realm : String) : Bool :=
  challenges.entries.any (·.1 == realm)

/-- Whether there is no challenge at all. -/
def isEmpty (challenges : Challenges) : Bool :=
  challenges.entries.isEmpty

/-- Sets the challenge of a realm. -/
def insert (challenges : Challenges) (realm challenge : String) : Challenges :=
  if challenges.contains realm then
    ⟨challenges.entries.map fun entry => if entry.1 == realm then (realm, challenge) else entry⟩
  else ⟨challenges.entries ++ [(realm, challenge)]⟩

/-- Challenges set in order. -/
def ofList (entries : List (String × String)) : Challenges :=
  entries.foldl (fun challenges (realm, challenge) => challenges.insert realm challenge) empty

end Challenges

/-- A login for one domain, and for one realm of it unless it is for all. -/
structure Credential where
  domain : String
  realm : Option String
  login : String
  password : String
  deriving DecidableEq, Repr

namespace Credential

/-- Whether a host is the credential's domain. -/
def appliesTo (credential : Credential) (host : String) : Bool :=
  Text.sameIgnoringCase credential.domain host

/-- Whether the credential has no realm or a challenged one. -/
def answers (credential : Credential) (challenges : Challenges) : Bool :=
  credential.realm.all challenges.contains

/-- The value of the authorization field: login and password in base 64. -/
def authorization (credential : Credential) : Bytes :=
  Text.utf8 ("Basic " ++ Text.Radix.base64.encode
    (Text.utf8 (credential.login ++ ":" ++ credential.password)))

end Credential

/-- The credentials that an operator has set up. -/
structure CredentialStore where
  credentials : List Credential
  deriving DecidableEq, Repr

/-- The credentials for a host. -/
def CredentialStore.forHost (store : CredentialStore) (host : String) : List Credential :=
  store.credentials.filter (·.appliesTo host)

end WebHarvest.Access
