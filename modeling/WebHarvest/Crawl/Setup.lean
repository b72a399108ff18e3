import WebHarvest.Crawl.Flight
import WebHarvest.Settings.Basic
import WebHarvest.Url.Parser

/-! Setting up a crawl from its settings. -/

namespace WebHarvest.Crawl

/-- Why a crawl cannot be set up: the proxy of the connections has no valid address, or the settings
of fetching cannot be used. -/
inductive SetupError where
  | proxy
  | fetch (error : Fetch.FetchError)
  deriving DecidableEq, Repr

/-- The port of a proxy unless another one is given. -/
def proxyPort : Nat := 80

/-- The address of the proxy, if there is one. -/
def proxyAddress? (config : Fetch.FetchConfig) : Option String :=
  config.proxyHost.map fun host =>
    "http://" ++ host ++ ":" ++ toString (config.proxyPort.getD proxyPort)

/-- Whether connections can be made as configured. -/
def isConnectable (config : Fetch.FetchConfig) : Bool :=
  (proxyAddress? config).all fun address => (Url.read? address).isSome

/-- A crawler with the given settings. -/
def Crawler.ofSettings (settings : Settings) : Except Fetch.FetchError Crawler := do
  let fetcher ← Fetch.Fetcher.new settings.fetch ⟨settings.credentials⟩
  return ⟨fetcher, ⟨settings.keyByLength, settings.requestRecords⟩⟩

/-- A crawler that makes its own connections. -/
def Crawler.connected (settings : Settings) : Except SetupError Crawler :=
  if isConnectable settings.fetch then (ofSettings settings).mapError SetupError.fetch
  else .error .proxy

/-- The world in which a crawl begins. -/
def World.begin (history : CaptureHistory) (ids : Archive.IdSource) (replies : List Fetch.Reply)
    (cancelAt : Option Clock.Instant) : World where
  shared := .empty
  archiving := ⟨history, ids⟩
  replies := replies
  requests := []
  taken := 0
  now := 0
  cancelAt := cancelAt

end WebHarvest.Crawl
