import WebHarvest.Exchange.Access
import WebHarvest.Exchange.Config
import WebHarvest.Place
import WebHarvest.Toml.Reader

/-! The settings of a crawl, as a file of settings gives them. -/

namespace WebHarvest

/-- The settings of a crawl. -/
structure Settings where
  workers : Nat
  keyByLength : Bool
  requestRecords : Bool
  history : Option String
  fetch : Fetch.FetchConfig
  credentials : List Access.Credential
  deriving DecidableEq, Repr

/-- Why there are no settings: the file cannot be read as text, or it does not hold settings. -/
inductive SettingsError where
  | unreadable
  | malformed
  deriving DecidableEq, Repr

namespace Settings

/-- The settings that hold where nothing else is said. -/
def standard : Settings where
  workers := 4
  keyByLength := false
  requestRecords := false
  history := none
  fetch := .standard
  credentials := []

instance : Inhabited Settings := ⟨standard⟩

/-- Reads settings from a tree. -/
def ofJson? (convention : Json.Convention) (j : Json) : Option Settings := do
  let fields ← j.fields? convention
    ["workers", "key_by_length", "request_records", "history", "fetch", "credentials"] true
  let workers ← fields.orElse "workers" standard.workers Json.count?
  let keyByLength ← fields.orElse "key_by_length" standard.keyByLength Json.bool?
  let requestRecords ← fields.orElse "request_records" standard.requestRecords Json.bool?
  let history ← fields.optional "history" Json.text?
  let fetch ← fields.orElse "fetch" standard.fetch (Fetch.FetchConfig.ofJson? convention)
  let credentials ← fields.orElse "credentials" standard.credentials
    (Json.listOf? (Access.Credential.ofJson? convention))
  return { workers, keyByLength, requestRecords, history, fetch, credentials }

/-- Reads a TOML document. -/
def ofToml? (text : String) : Option Settings :=
  (Toml.read? text).bind fun document => ofJson? Toml.convention document.toJson

/-- Loads settings from a file. -/
def load (place : Place) : Except SettingsError Settings :=
  match place.read?.bind Text.ofUtf8? with
  | none => .error .unreadable
  | some text =>
    match ofToml? text with
    | some settings => .ok settings
    | none => .error .malformed

end Settings

end WebHarvest
