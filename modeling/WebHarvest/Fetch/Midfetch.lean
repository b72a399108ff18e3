import WebHarvest.Http.Message

/-! The decision that is made once the head of a response is in: whether its body is read. -/

namespace WebHarvest.Fetch

/-- Bodies that are not read: none, those of certain media types, or those with a great length. -/
inductive MidfetchRule where
  | accept
  | rejectTypes (starts : List String)
  | rejectOverLength (most : Nat)
  deriving DecidableEq, Repr

/-- Whether a text starts with another one, ASCII letters compared without regard to case. -/
def startsIgnoringCase (text start : String) : Bool :=
  (Text.lowerString start).toList.isPrefixOf (Text.lowerString text).toList

/-- Whether the body of a response with the given header fields is not read. A field that is missing
or not readable rejects nothing. -/
def MidfetchRule.rejects (rule : MidfetchRule) (headers : Http.Headers) : Bool :=
  match rule with
  | accept => false
  | rejectTypes starts =>
    (headers.first? "content-type").any fun type =>
      starts.any (startsIgnoringCase (Text.trimString type))
  | rejectOverLength most => (Http.declaredLength? headers).any (most < ·)

end WebHarvest.Fetch
