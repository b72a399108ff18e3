import WebHarvest.Capture.Entry

/-! The history of captures: for every content that was recorded its first capture. -/

namespace WebHarvest

/-- Entries by their keys, each key once, in the order in which they were first recorded. -/
structure CaptureHistory where
  entries : List (CaptureKey × CaptureEntry)
  deriving DecidableEq, Repr

namespace CaptureHistory

/-- Nothing recorded. -/
def empty : CaptureHistory := ⟨[]⟩

instance : Inhabited CaptureHistory := ⟨empty⟩

/-- The entry of a key. -/
def lookup? (history : CaptureHistory) (key : CaptureKey) : Option CaptureEntry :=
  (history.entries.find? (·.1 == key)).map (·.2)

/-- Contents that were recorded. -/
def size (history : CaptureHistory) : Nat :=
  history.entries.length

/-- Sets the entry of a key, which keeps its place if it has one. -/
def put (key : CaptureKey) (entry : CaptureEntry)
    : List (CaptureKey × CaptureEntry) → List (CaptureKey × CaptureEntry)
  | [] => [(key, entry)]
  | (other, kept) :: rest =>
    if other == key then (key, entry) :: rest else (other, kept) :: put key entry rest

/-- Sets the entry of a key. -/
def insert (history : CaptureHistory) (key : CaptureKey) (entry : CaptureEntry)
    : CaptureHistory :=
  ⟨put key entry history.entries⟩

/-- Records a capture: the first one of a key makes the entry, each later one is counted. Gives the
entry as it is kept. -/
def record (history : CaptureHistory) (key : CaptureKey) (capture : Capture)
    : CaptureEntry × CaptureHistory :=
  let entry := match history.lookup? key with
    | some entry => entry.again
    | none => capture.first
  (entry, history.insert key entry)

/-- Entries set in order, so that the last one of a key counts. -/
def ofList (entries : List (CaptureKey × CaptureEntry)) : CaptureHistory :=
  entries.foldl (fun history (key, entry) => history.insert key entry) empty

end CaptureHistory

end WebHarvest
