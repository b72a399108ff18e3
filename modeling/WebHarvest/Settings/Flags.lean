import WebHarvest.Settings.Basic
import WebHarvest.Url.Parser

/-! The command line of a crawl: URLs, and flags that come before the file of settings. -/

namespace WebHarvest

/-- Why a command line is not carried out: it asks for help or for the version, or it is wrong. -/
inductive FlagsError where
  | help
  | version
  | usage
  deriving DecidableEq, Repr

/-- A command line. -/
structure Flags where
  urls : List Url
  config : Option String
  history : Option String
  workers : Option Nat
  maxLength : Option Nat
  timeoutSeconds : Option Nat
  maxRate : Option Nat
  requestRecords : Bool
  verbosity : Nat
  deriving DecidableEq, Repr

/-- The flags with a value. -/
inductive ValueFlag where
  | config
  | history
  | workers
  | maxLength
  | timeout
  | maxRate
  deriving DecidableEq, Repr

/-- A flag: one with a value, or one that stands for itself. -/
inductive Flag where
  | valued (flag : ValueFlag)
  | requestRecords
  | verbose
  | help
  | version
  deriving DecidableEq, Repr

/-- The flag with a long name. -/
def Flag.ofName? : String → Option Flag
  | "config" => some (valued .config)
  | "history" => some (valued .history)
  | "workers" => some (valued .workers)
  | "max-length" => some (valued .maxLength)
  | "timeout" => some (valued .timeout)
  | "max-rate" => some (valued .maxRate)
  | "request-records" => some requestRecords
  | "verbose" => some verbose
  | "help" => some help
  | "version" => some version
  | _ => none

/-- The flag with a letter for a name. -/
def Flag.ofLetter? : Char → Option Flag
  | 'c' => some (valued .config)
  | 'w' => some (valued .workers)
  | 'v' => some verbose
  | 'h' => some help
  | 'V' => some version
  | _ => none

namespace Flags

/-- The empty command line. -/
def empty : Flags := ⟨[], none, none, none, none, none, none, false, 0⟩

/-- The greatest number of times that more logging can be asked for. -/
def maxVerbosity : Nat := 255

/-- Sets what must not be set twice. -/
def once {α : Type} (old : Option α) (new : Option α) : Except FlagsError (Option α) :=
  match old, new with
  | none, some value => .ok (some value)
  | _, _ => .error .usage

/-- A path, which is not empty. -/
def path? (value : String) : Option String :=
  if value.isEmpty then none else some value

/-- A count. -/
def count? (value : String) : Option Nat :=
  Text.Decimal.readBelow? (Nat.pow 2 64) value.toList

/-- Gives a flag its value. -/
def assign (flags : Flags) (flag : ValueFlag) (value : String) : Except FlagsError Flags := do
  match flag with
  | .config => return { flags with config := ← once flags.config (path? value) }
  | .history => return { flags with history := ← once flags.history (path? value) }
  | .workers => return { flags with workers := ← once flags.workers (count? value) }
  | .maxLength => return { flags with maxLength := ← once flags.maxLength (count? value) }
  | .timeout =>
    return { flags with timeoutSeconds := ← once flags.timeoutSeconds (count? value) }
  | .maxRate => return { flags with maxRate := ← once flags.maxRate (count? value) }

/-- Raises a flag that stands for itself, and tells whether it was one. -/
def raise (flags : Flags) : Flag → Except FlagsError Flags
  | .requestRecords =>
    if flags.requestRecords then .error .usage else .ok { flags with requestRecords := true }
  | .verbose => .ok { flags with verbosity := min (flags.verbosity + 1) maxVerbosity }
  | .help => .error .help
  | .version => .error .version
  | .valued _ => .error .usage

/-- Adds a URL. -/
def addUrl (flags : Flags) (text : String) : Except FlagsError Flags :=
  match Url.read? text with
  | some url => .ok { flags with urls := flags.urls ++ [url] }
  | none => .error .usage

/-- Letters of flags in a row. The first one with a value takes the rest as its value, after an
equals sign if there is one; if nothing is left, its value is still to come. -/
def takeLetters (flags : Flags) : List Char → Except FlagsError (Flags × Option ValueFlag)
  | [] => .ok (flags, none)
  | c :: rest =>
    match Flag.ofLetter? c, rest with
    | none, _ => .error .usage
    | some (.valued flag), [] => .ok (flags, some flag)
    | some (.valued flag), '=' :: value =>
      (flags.assign flag (String.ofList value)).map (·, none)
    | some (.valued flag), value => (flags.assign flag (String.ofList value)).map (·, none)
    | some flag, rest => do (← flags.raise flag).takeLetters rest

/-- A long name, with a value if an equals sign follows it. -/
def takeName (flags : Flags) (cs : List Char) : Except FlagsError (Flags × Option ValueFlag) :=
  match Flag.ofName? (String.ofList (cs.takeWhile (· != '='))), cs.dropWhile (· != '=') with
  | none, _ => .error .usage
  | some (.valued flag), [] => .ok (flags, some flag)
  | some (.valued flag), _ :: value =>
    (flags.assign flag (String.ofList value)).map (·, none)
  | some flag, [] => (flags.raise flag).map (·, none)
  | some _, _ :: _ => .error .usage

/-- Takes the words of a command line in order. In `pending` is the flag whose value comes next.
After two hyphens all words are URLs. -/
def takeWords (flags : Flags) (pending : Option ValueFlag) : List String → Except FlagsError Flags
  | [] => if pending.isSome then .error .usage else .ok flags
  | word :: rest =>
    match word.toList, pending with
    | ['-', '-'], some _ => .error .usage
    | ['-', '-'], none => rest.foldlM addUrl flags
    | '-' :: '-' :: _, some _ => .error .usage
    | '-' :: '-' :: name, none => do
      let (flags, pending) ← flags.takeName name
      flags.takeWords pending rest
    | '-' :: _ :: _, some _ => .error .usage
    | '-' :: c :: letters, none => do
      let (flags, pending) ← flags.takeLetters (c :: letters)
      flags.takeWords pending rest
    | _, some flag => do (← flags.assign flag word).takeWords none rest
    | _, none => do (← flags.addUrl word).takeWords none rest

/-- Reads a command line, which has at least one URL. -/
def read (words : List String) : Except FlagsError Flags := do
  let flags ← takeWords empty none words
  if flags.urls.isEmpty then .error .usage else return flags

end Flags

/-- The settings with what the command line says in their place, and at least one worker. -/
def Settings.apply (settings : Settings) (flags : Flags) : Settings :=
  { settings with
    workers := max (flags.workers.getD settings.workers) 1
    history := flags.history.or settings.history
    requestRecords := settings.requestRecords || flags.requestRecords
    fetch :=
      { settings.fetch with
        maxLength := flags.maxLength.getD settings.fetch.maxLength
        timeoutSeconds := flags.timeoutSeconds.getD settings.fetch.timeoutSeconds
        maxRate := flags.maxRate.getD settings.fetch.maxRate } }

end WebHarvest
