import WebHarvest.Access.Credential
import WebHarvest.Http.Header

/-! Challenges as they stand in the header fields of a response. -/

namespace WebHarvest.Access

/-- What announces the realm of a challenge, in any case. -/
def realmMark : List Char := "realm=".toList

/-- The text after the first realm mark. -/
def afterRealmMark? : List Char → Option (List Char)
  | [] => none
  | c :: rest =>
    if realmMark.isPrefixOf ((c :: rest).map Text.lowerAscii) then
      some ((c :: rest).drop realmMark.length)
    else afterRealmMark? rest

/-- The realm that a text starts with: up to the closing quote if it is quoted, else up to a comma
or a blank. -/
def leadingRealm : List Char → List Char
  | '"' :: rest => rest.takeWhile (· != '"')
  | cs => cs.takeWhile fun c => c != ',' && c != ' '

/-- The realm of a challenge. -/
def realm? (challenge : String) : Option String :=
  (afterRealmMark? challenge.toList).map fun rest => String.ofList (leadingRealm rest)

/-- The challenges in all readable values of a header field. The last one of a realm counts. -/
def Challenges.ofHeaders (headers : Http.Headers) (name : String) : Challenges :=
  .ofList (((headers.values name).filterMap Http.readable?).map fun challenge =>
    ((realm? challenge).getD "", challenge))

end WebHarvest.Access
