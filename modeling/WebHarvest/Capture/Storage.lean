import WebHarvest.Exchange.Capture
import WebHarvest.Place

/-! Keeping a history in a file from one crawl to the next. -/

namespace WebHarvest

/-- Why a history cannot be loaded or kept: the file cannot be read or written, it is no snapshot,
or what stands in its place cannot be replaced. -/
inductive HistoryError where
  | io
  | malformed
  | replacement
  deriving DecidableEq, Repr

namespace CaptureHistory

/-- Loads a history. Where there is nothing, it is empty. -/
def load (place : Place) : Except HistoryError CaptureHistory :=
  match place with
  | .vacant | .unreachable => .ok empty
  | .directory => .error .io
  | .file bytes =>
    match ofSnapshot? bytes with
    | some history => .ok history
    | none => .error .malformed

/-- Keeps a history: the place afterwards, with the snapshot in the place of any file before. -/
def persist (history : CaptureHistory) (place : Place) : Except HistoryError Place :=
  match place with
  | .unreachable => .error .io
  | .directory => .error .replacement
  | .vacant | .file _ => .ok (.file (Text.utf8 history.snapshot))

end CaptureHistory

end WebHarvest
