import WebHarvest.Access.Server
import WebHarvest.Json.Fields

/-! The JSON forms of credentials, challenges and servers. -/

namespace WebHarvest.Access

namespace Credential

/-- A credential by its fields. -/
def toJson (credential : Credential) : Json :=
  .ofMembers
    [("domain", .text credential.domain),
     ("realm", .orNull .text credential.realm),
     ("login", .text credential.login),
     ("password", .text credential.password)]

/-- Reads a credential, whose realm may be missing. -/
def ofJson? (convention : Json.Convention) (j : Json) : Option Credential := do
  let fields ← j.fields? convention ["domain", "realm", "login", "password"] false
  let domain ← fields.required "domain" Json.text?
  let realm ← fields.optional "realm" Json.text?
  let login ← fields.required "login" Json.text?
  let password ← fields.required "password" Json.text?
  return { domain, realm, login, password }

end Credential

namespace CredentialStore

/-- The credentials in order. -/
def toJson (store : CredentialStore) : Json :=
  .array (store.credentials.map Credential.toJson)

/-- Reads an array of credentials. -/
def ofJson? (j : Json) : Option CredentialStore :=
  (j.listOf? (Credential.ofJson? Json.convention)).map CredentialStore.mk

end CredentialStore

namespace Challenges

/-- Challenges by their realms. -/
def toJson (challenges : Challenges) : Json :=
  .ofMembers (challenges.entries.map fun (realm, challenge) => (realm, .text challenge))

/-- Reads challenges by their realms; of equal realms the last one counts. -/
def ofJson? : Json → Option Challenges
  | .object members => do
    let entries ← members.mapM fun (realm, challenge) => do
      return (← realm, ← challenge.text?)
    return ofList entries
  | _ => none

end Challenges

/-- A server by its fields. -/
def Server.toJson (server : Server) : Json :=
  .ofMembers
    [("key", .text server.key),
     ("credentials", .array (server.credentials.map Credential.toJson)),
     ("challenges", server.challenges.toJson)]

end WebHarvest.Access
