import WebHarvest.Capture.Storage
import WebHarvest.Crawl.Run
import WebHarvest.Crawl.Setup
import WebHarvest.Exchange.Report
import WebHarvest.Settings.Flags

/-! The command: from its command line and the files it reads to the lines it prints, the file it
keeps and its exit code. -/

namespace WebHarvest.Command

/-- Why the command fails. All but the first name the file concerned, if one is. -/
inductive CommandError where
  | flags (error : FlagsError)
  | settings (path : String) (error : SettingsError)
  | historyLoad (path : String)
  | setup (error : Crawl.SetupError)
  | historySave (path : String)
  deriving DecidableEq, Repr

namespace CommandError

/-- The exit code: asking for help or for the version is no failure, and a wrong command line is
told from other ones. -/
def exitCode : CommandError → Nat
  | flags .help => 0
  | flags .version => 0
  | flags .usage => 2
  | _ => 1

/-- The wording of an error. -/
def message : CommandError → String
  | flags .help => "web-harvest [flags] URL..."
  | flags .version => "web-harvest 0.1.0"
  | flags .usage => "usage: web-harvest [flags] URL..."
  | settings path .unreadable => "Failed to read settings from " ++ path
  | settings path .malformed => "Failed to parse settings in " ++ path
  | historyLoad path => "Failed to load digest history from " ++ path
  | setup .proxy => "Failed to build HTTP client"
  | setup (.fetch error) => "Invalid fetch settings: " ++ error.message
  | historySave path => "Failed to save digest history to " ++ path

end CommandError

/-- What the command does: the lines that it prints, the file that it keeps with what it holds
afterwards, and the error that ends it if there is one. -/
structure Outcome where
  lines : List String
  kept : Option (String × Place)
  error : Option CommandError

/-- The exit code of the command. -/
def Outcome.exitCode (outcome : Outcome) : Nat :=
  outcome.error.elim 0 CommandError.exitCode

/-- The settings that hold for a command line. -/
def settingsFor (flags : Flags) (look : String → Place) : Except CommandError Settings :=
  match flags.config with
  | none => .ok (Settings.standard.apply flags)
  | some path =>
    match Settings.load (look path) with
    | .ok settings => .ok (settings.apply flags)
    | .error error => .error (.settings path error)

/-- The history with which a crawl begins. -/
def historyFor (settings : Settings) (look : String → Place)
    : Except CommandError CaptureHistory :=
  match settings.history with
  | none => .ok .empty
  | some path => (CaptureHistory.load (look path)).mapError fun _ => .historyLoad path

/-- The outcome of keeping a history after a crawl that has printed lines. -/
def keepHistory (settings : Settings) (look : String → Place) (history : CaptureHistory)
    (lines : List String) : Outcome :=
  match settings.history with
  | none => ⟨lines, none, none⟩
  | some path =>
    match history.persist (look path) with
    | .ok place => ⟨lines, some (path, place), none⟩
    | .error _ => ⟨lines, none, some (.historySave path)⟩

/-- All that is needed before anything is fetched. -/
def prepare (words : List String) (look : String → Place)
    : Except CommandError (Flags × Settings × CaptureHistory × Crawl.Crawler) := do
  let flags ← (Flags.read words).mapError CommandError.flags
  let settings ← settingsFor flags look
  let history ← historyFor settings look
  let crawler ← (Crawl.Crawler.connected settings).mapError CommandError.setup
  return (flags, settings, history, crawler)

/-- Carries out a command line. `look` tells what is found at a path, and `replies` are what the
requests are answered with. -/
def run (words : List String) (look : String → Place) (replies : List Fetch.Reply)
    (ids : Archive.IdSource) (wall : Calendar.Timestamp) : Outcome :=
  match prepare words look with
  | .error error => ⟨[], none, some error⟩
  | .ok (flags, settings, history, crawler) =>
    let (reports, world) :=
      crawler.run flags.urls settings.workers none wall (.begin history ids replies none)
    keepHistory settings look world.archiving.history (reports.map Crawl.Report.line)

end WebHarvest.Command
