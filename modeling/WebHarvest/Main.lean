import Std.Time.DateTime.Timestamp
import WebHarvest.Archive.Uuid
import WebHarvest.Command

/-! The program: files, clock and random numbers for the command, which decides everything else. -/

namespace WebHarvest.Main

/-- What is found at a path. -/
def look (name : String) : IO Place := do
  let path := (← IO.currentDir) / name
  if ← path.isDir then return .directory
  if ← path.pathExists then return .file (← IO.FS.readBinFile path).toList
  match path.parent with
  | some parent => if ← parent.isDir then return .vacant else return .unreachable
  | none => return .unreachable

/-- What is found at each of some paths. -/
def lookAll (names : List String) : IO (List (String × Place)) :=
  names.mapM fun name => do return (name, ← look name)

/-- A view of the files that were looked at. -/
def viewOf (places : List (String × Place)) (name : String) : Place :=
  ((places.find? (·.1 == name)).map (·.2)).getD .unreachable

/-- The paths that a command line may make the command read or write. The view of the files tells
the settings, which may name one more. -/
def pathsOf (words : List String) (view : String → Place) : List String :=
  match Flags.read words with
  | .error _ => []
  | .ok flags =>
    let fromSettings := match Command.settingsFor flags view with
      | .ok settings => settings.history.toList
      | .error _ => []
    flags.config.toList ++ fromSettings

/-- The time of day. -/
def now : IO Calendar.Timestamp := do
  let t ← Std.Time.Timestamp.now
  let nanos := t.toNanosecondsSinceUnixEpoch.val
  return ⟨nanos / 1000000000, (nanos % 1000000000).toNat⟩

/-- Writes a file that the command keeps. -/
def keep (name : String) (place : Place) : IO Unit := do
  match place.read? with
  | some bytes => IO.FS.writeBinFile ((← IO.currentDir) / name) ⟨bytes.toArray⟩
  | none => return

end WebHarvest.Main

/-- Runs the command. There is no connection to any server, so that every request is refused. -/
def main (words : List String) : IO UInt32 := do
  let first ← WebHarvest.Main.lookAll (WebHarvest.Main.pathsOf words fun _ => .unreachable)
  let places ←
    WebHarvest.Main.lookAll (WebHarvest.Main.pathsOf words (WebHarvest.Main.viewOf first))
  let seed := toString (← IO.rand 0 (Nat.pow 2 62)) ++ "-" ++ toString (← IO.rand 0 (Nat.pow 2 62))
  let outcome := WebHarvest.Command.run words (WebHarvest.Main.viewOf places) []
    (.ofSeed seed) (← WebHarvest.Main.now)
  for line in outcome.lines do
    IO.println line
  match outcome.kept with
  | some (name, place) => WebHarvest.Main.keep name place
  | none => pure ()
  match outcome.error with
  | some error =>
    if error.exitCode == 0 then IO.println error.message else IO.eprintln error.message
  | none => pure ()
  return outcome.exitCode.toUInt32
