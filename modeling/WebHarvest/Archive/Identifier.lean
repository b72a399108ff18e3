/-! Identifiers of records. A source of them gives a new one each time. -/

namespace WebHarvest.Archive

/-- Identifiers by number, and the number of the next one. -/
structure IdSource where
  name : Nat → String
  next : Nat

/-- The next identifier. -/
def IdSource.draw (ids : IdSource) : String × IdSource :=
  (ids.name ids.next, { ids with next := ids.next + 1 })

end WebHarvest.Archive
