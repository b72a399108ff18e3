import WebHarvest.Access.Promotion
import WebHarvest.Fetch.Conditional

/-! A fetcher: its settings and the credentials it may use, what its fetches share, and the requests
it makes. -/

namespace WebHarvest.Fetch

open Access (Challenges Credential CredentialStore ServerCache)

/-- A fetcher. Its accept headers are those of the settings, read once. -/
structure Fetcher where
  config : FetchConfig
  acceptFields : Http.Headers
  store : CredentialStore

/-- What all fetches of a fetcher share: the servers, and the challenges of the last proxy that
wanted credentials. -/
structure Shared where
  servers : ServerCache
  proxyChallenges : Challenges
  deriving DecidableEq, Repr

/-- Nothing shared yet. -/
def Shared.empty : Shared := ⟨.empty, .empty⟩

/-- The schemes of URLs that can be fetched. -/
def isFetchable (scheme : String) : Bool :=
  scheme == "http" || scheme == "https"

namespace Fetcher

/-- A fetcher with settings that can be used. -/
def new (config : FetchConfig) (store : CredentialStore) : Except FetchError Fetcher :=
  match config.validate, config.acceptFields with
  | .error error, _ => .error (.config error)
  | .ok _, .error error => .error (.config error)
  | .ok _, .ok acceptFields => .ok { config, acceptFields, store }

/-- Whether an item is fetched at all: its scheme must be one of the web and its host must not be
known to have no address. An item that is fetched gets an entry for its server. -/
def screen (item : CrawlItem) (shared : Shared) : Bool × CrawlItem × Shared :=
  if !isFetchable item.url.scheme then (false, item, shared)
  else if (shared.servers.hostFor? item.url).any (·.isUnresolvable) then
    (false, item.setStatus .prerequisiteFailed, shared)
  else
    match item.url.hostText? with
    | none => (false, item, shared)
    | some host => (true, item, { shared with servers := shared.servers.ensure host })

/-- The credential that the item presents to a host: the first one for the host that answers the
challenges it has met. -/
def ownCredential? (item : CrawlItem) (host : String) : Option Credential :=
  item.credentials.find? fun credential =>
    credential.appliesTo host && credential.answers item.challenges

/-- The credential that is offered before a host asks: the first one of its server that answers the
server's challenges. -/
def knownCredential? (servers : ServerCache) (host : String) : Option Credential :=
  (servers.serverFor? host).bind fun server =>
    server.credentials.find? (·.answers server.challenges)

/-- The credential of a request, and whether it is the item's own. -/
def credential? (servers : ServerCache) (item : CrawlItem) : Option (Credential × Bool) :=
  item.url.hostText?.bind fun host =>
    match ownCredential? item host with
    | some credential => some (credential, true)
    | none => (knownCredential? servers host).map (·, false)

/-- A header field with one value that is always sent when a setting is on. -/
def insertWhen (on : Bool) (name value : String) (headers : Http.Headers) : Http.Headers :=
  if on then headers.insert name (Text.utf8 value) else headers

/-- The range of bytes up to a cap on the length. -/
def rangeText? (hardMax : Nat) : Option String :=
  if 0 < hardMax then some ("bytes=0-" ++ toString (hardMax - 1)) else none

/-- All header fields of a request but the authorization. -/
def openFields (fetcher : Fetcher) (item : CrawlItem) (limits : Recording.Limits)
    : Http.Headers :=
  let config := fetcher.config
  let headers := insertText fetcher.acceptFields "user-agent" config.userAgent
  let headers := insertWhen config.acceptCompression "accept-encoding" "gzip,deflate" headers
  let headers := insertWhen config.sendConnectionClose "connection" "close" headers
  let referer := if config.sendReferer then item.via.map Url.text else none
  let headers := insertText headers "referer" referer
  let range := if config.sendRange then rangeText? limits.hardMax else none
  config.addValidators item (insertText headers "range" range)

/-- The request for an item, and whether it presents one of the item's own credentials. -/
def request (fetcher : Fetcher) (servers : ServerCache) (item : CrawlItem)
    (limits : Recording.Limits) : Http.Request × Bool :=
  let credential := credential? servers item
  let headers := fetcher.openFields item limits
  let headers := match credential with
    | some (credential, _) => headers.insert "authorization" credential.authorization
    | none => headers
  ({ method := item.method.text
     url := item.url
     version := if fetcher.config.useHttp11 then .http11 else .http10
     headers },
    credential.any (·.2))

end Fetcher

end WebHarvest.Fetch
