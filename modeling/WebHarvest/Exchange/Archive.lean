import WebHarvest.Archive.Pipeline
import WebHarvest.Exchange.Record

/-! The JSON form of the archive's decisions. -/

namespace WebHarvest.Archive

/-- A decision by its kind, with the kind of revisit. -/
def Decision.toJson : Decision → Json
  | skipped => .ofMembers [("kind", .text "skipped")]
  | revisit kind => .ofMembers [("kind", .text "revisit"), ("revisit", .text kind.text)]
  | response => .ofMembers [("kind", .text "response")]

end WebHarvest.Archive
