import WebHarvest.Fetch.Error
import WebHarvest.Fetch.Midfetch
import WebHarvest.Item.Status
import WebHarvest.Recording.Recorder

/-! How fetching is configured, and the limits of one fetch that follow from it. -/

namespace WebHarvest.Fetch

/-- How much of a server's certificate is checked: nothing, hardly anything, all but the host name,
or everything. -/
inductive TrustLevel where
  | anything
  | loose
  | normal
  | strict
  deriving DecidableEq, Repr

/-- The name of a level. -/
def TrustLevel.text : TrustLevel → String
  | anything => "open"
  | loose => "loose"
  | normal => "normal"
  | strict => "strict"

/-- All settings of fetching. Accept headers are lines `Name: value`. The rate is in kilobytes per
second; a rate, timeout or length of zero is none. -/
structure FetchConfig where
  acceptHeaders : List String
  acceptCompression : Bool
  useHttp11 : Bool
  sendConnectionClose : Bool
  ignoreCookies : Bool
  sendRange : Bool
  sendIfModifiedSince : Bool
  sendIfNoneMatch : Bool
  sendReferer : Bool
  digestContent : Bool
  digestAlgorithm : DigestAlgorithm
  maxRate : Nat
  timeoutSeconds : Nat
  socketTimeoutMillis : Nat
  maxLength : Nat
  trustLevel : TrustLevel
  midfetchRule : MidfetchRule
  userAgent : Option String
  proxyHost : Option String
  proxyPort : Option Nat
  proxyUser : Option String
  proxyPassword : Option String
  snapshotsKept : Nat
  deriving DecidableEq, Repr

namespace FetchConfig

/-- The settings that hold where nothing else is said. -/
def standard : FetchConfig where
  acceptHeaders := ["Accept: text/html,application/xhtml+xml,application/xml;q=0.9,*/*;q=0.8"]
  acceptCompression := false
  useHttp11 := false
  sendConnectionClose := true
  ignoreCookies := false
  sendRange := false
  sendIfModifiedSince := true
  sendIfNoneMatch := true
  sendReferer := true
  digestContent := true
  digestAlgorithm := .sha1
  maxRate := 0
  timeoutSeconds := 1200
  socketTimeoutMillis := 20000
  maxLength := 0
  trustLevel := .anything
  midfetchRule := .accept
  userAgent := none
  proxyHost := none
  proxyPort := none
  proxyUser := none
  proxyPassword := none
  snapshotsKept := 2

instance : Inhabited FetchConfig := ⟨standard⟩

/-- The greatest rate in bytes per second. -/
def maxBytesPerSecond : Nat := Nat.pow 2 64 - 1

/-- The limits of a fetch. What an item overrides comes before what is configured. -/
def limits (config : FetchConfig) (overrides : FetchOverrides) : Recording.Limits :=
  let seconds := overrides.timeoutSeconds.getD config.timeoutSeconds
  { hardMax := overrides.maxLength.getD config.maxLength
    timeout := if 0 < seconds then some (seconds * Clock.second) else none
    bytesPerSecond := min (overrides.maxRate.getD config.maxRate * 1024) maxBytesPerSecond }

/-- The algorithm with which bodies are digested, if they are. -/
def digest? (config : FetchConfig) : Option DigestAlgorithm :=
  if config.digestContent then some config.digestAlgorithm else none

/-- The time in milliseconds that a connection may take to answer, if it is bounded. -/
def socketTimeout? (config : FetchConfig) : Option Nat :=
  if 0 < config.socketTimeoutMillis then some config.socketTimeoutMillis else none

/-- Reads a line `Name: value`, white space around both parts cut off. -/
def headerField (line : String) : Except ConfigError (String × Bytes) :=
  let cs := line.toList
  match cs.dropWhile (· != ':') with
  | [] => .error (.headerWithoutColon line)
  | _ :: value =>
    match Http.headerName? (String.ofList (Text.trim (cs.takeWhile (· != ':')))) with
    | none => .error (.headerName line)
    | some name =>
      match Http.headerValue? (String.ofList (Text.trim value)) with
      | none => .error (.headerValue line)
      | some value => .ok (name, value)

/-- The accept headers as header fields; the first line that is none fails. -/
def acceptFields (config : FetchConfig) : Except ConfigError Http.Headers :=
  (config.acceptHeaders.mapM headerField).map Http.Headers.ofList

/-- Whether the settings can be used together. -/
def validate (config : FetchConfig) : Except ConfigError Unit :=
  match config.acceptFields with
  | .error error => .error error
  | .ok _ =>
    if config.proxyHost.isNone && (config.proxyPort.isSome || config.proxyUser.isSome) then
      .error .proxyWithoutHost
    else if config.snapshotsKept == 0 then .error .noSnapshots
    else .ok ()

end FetchConfig

end WebHarvest.Fetch
