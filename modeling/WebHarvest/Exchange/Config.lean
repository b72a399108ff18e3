import WebHarvest.Exchange.Item
import WebHarvest.Fetch.Config

/-! The JSON forms of the settings of fetching. -/

namespace WebHarvest

namespace Fetch

namespace TrustLevel

/-- A level by its name. -/
def toJson (level : TrustLevel) : Json :=
  .text level.text

/-- Reads a level. -/
def ofJson? (convention : Json.Convention) (j : Json) : Option TrustLevel :=
  match j.choice? convention with
  | some "open" => some anything
  | some "loose" => some loose
  | some "normal" => some normal
  | some "strict" => some strict
  | _ => none

end TrustLevel

namespace MidfetchRule

/-- A rule by its name, with what belongs to it. -/
def toJson : MidfetchRule → Json
  | accept => .ofMembers [("rule", .text "accept")]
  | rejectTypes starts =>
    .ofMembers [("rule", .text "reject-mime-prefix"), ("prefixes", .array (starts.map .text))]
  | rejectOverLength most =>
    .ofMembers [("rule", .text "reject-over-length"), ("max_bytes", .nat most)]

/-- Splits a value into the name of its rule and the rest: of an object the member `rule`, of an
array the first item. -/
def splitName? : Json → Option (String × Json)
  | .array (name :: rest) => name.text?.map (·, .array rest)
  | .object members =>
    match members.partition (·.1 == some "rule") with
    | ([(_, name)], rest) => name.text?.map (·, .object rest)
    | _ => none
  | _ => none

/-- Whether a value has room for a rule without contents. -/
def hasNoItems : Json → Bool
  | .array items => items.isEmpty
  | _ => true

/-- Reads a rule at a level of nesting. The value is kept until the name of the rule is known, and
what is kept has no surplus. -/
def ofJson? (convention : Json.Convention) (level : Nat) (j : Json) : Option MidfetchRule := do
  let (name, rest) ← if convention.keeps level j then splitName? j else none
  match name with
  | "accept" => if hasNoItems rest then some accept else none
  | "reject-mime-prefix" =>
    let fields ← rest.fields? Json.convention ["prefixes"] false
    return rejectTypes (← fields.required "prefixes" (Json.listOf? Json.text?))
  | "reject-over-length" =>
    let fields ← rest.fields? Json.convention ["max_bytes"] false
    return rejectOverLength (← fields.required "max_bytes" Json.count?)
  | _ => none

end MidfetchRule

namespace FetchConfig

/-- The names of all settings in their order. -/
def settingNames : List String :=
  ["accept_headers", "accept_compression", "use_http11", "send_connection_close",
   "ignore_cookies", "send_range", "send_if_modified_since", "send_if_none_match",
   "send_referer", "digest_content", "digest_algorithm", "max_fetch_kb_sec", "timeout_seconds",
   "socket_timeout_ms", "max_length_bytes", "ssl_trust_level", "midfetch_rule", "user_agent",
   "http_proxy_host", "http_proxy_port", "http_proxy_user", "http_proxy_password",
   "history_length"]

/-- All settings by their names. -/
def toJson (config : FetchConfig) : Json :=
  .ofMembers
    [("accept_headers", .array (config.acceptHeaders.map .text)),
     ("accept_compression", .bool config.acceptCompression),
     ("use_http11", .bool config.useHttp11),
     ("send_connection_close", .bool config.sendConnectionClose),
     ("ignore_cookies", .bool config.ignoreCookies),
     ("send_range", .bool config.sendRange),
     ("send_if_modified_since", .bool config.sendIfModifiedSince),
     ("send_if_none_match", .bool config.sendIfNoneMatch),
     ("send_referer", .bool config.sendReferer),
     ("digest_content", .bool config.digestContent),
     ("digest_algorithm", config.digestAlgorithm.toJson),
     ("max_fetch_kb_sec", .nat config.maxRate),
     ("timeout_seconds", .nat config.timeoutSeconds),
     ("socket_timeout_ms", .nat config.socketTimeoutMillis),
     ("max_length_bytes", .nat config.maxLength),
     ("ssl_trust_level", config.trustLevel.toJson),
     ("midfetch_rule", config.midfetchRule.toJson),
     ("user_agent", .orNull .text config.userAgent),
     ("http_proxy_host", .orNull .text config.proxyHost),
     ("http_proxy_port", .orNull .nat config.proxyPort),
     ("http_proxy_user", .orNull .text config.proxyUser),
     ("http_proxy_password", .orNull .text config.proxyPassword),
     ("history_length", .nat config.snapshotsKept)]

/-- Reads settings. What is not said holds as in the standard settings. -/
def ofJson? (convention : Json.Convention) (j : Json) : Option FetchConfig := do
  let fields ← j.fields? convention settingNames true
  let flag (name : String) (default : Bool) := fields.orElse name default Json.bool?
  let count (name : String) (default : Nat) := fields.orElse name default Json.count?
  let text (name : String) := fields.optional name Json.text?
  let acceptHeaders ←
    fields.orElse "accept_headers" standard.acceptHeaders (Json.listOf? Json.text?)
  let acceptCompression ← flag "accept_compression" standard.acceptCompression
  let useHttp11 ← flag "use_http11" standard.useHttp11
  let sendConnectionClose ← flag "send_connection_close" standard.sendConnectionClose
  let ignoreCookies ← flag "ignore_cookies" standard.ignoreCookies
  let sendRange ← flag "send_range" standard.sendRange
  let sendIfModifiedSince ← flag "send_if_modified_since" standard.sendIfModifiedSince
  let sendIfNoneMatch ← flag "send_if_none_match" standard.sendIfNoneMatch
  let sendReferer ← flag "send_referer" standard.sendReferer
  let digestContent ← flag "digest_content" standard.digestContent
  let digestAlgorithm ←
    fields.orElse "digest_algorithm" standard.digestAlgorithm DigestAlgorithm.ofJson?
  let maxRate ← count "max_fetch_kb_sec" standard.maxRate
  let timeoutSeconds ← count "timeout_seconds" standard.timeoutSeconds
  let socketTimeoutMillis ← count "socket_timeout_ms" standard.socketTimeoutMillis
  let maxLength ← count "max_length_bytes" standard.maxLength
  let trustLevel ←
    fields.orElse "ssl_trust_level" standard.trustLevel (TrustLevel.ofJson? convention)
  let midfetchRule ←
    fields.orElse "midfetch_rule" standard.midfetchRule (MidfetchRule.ofJson? convention 1)
  let userAgent ← text "user_agent"
  let proxyHost ← text "http_proxy_host"
  let proxyPort ← fields.optional "http_proxy_port" (Json.natBelow? (Nat.pow 2 16))
  let proxyUser ← text "http_proxy_user"
  let proxyPassword ← text "http_proxy_password"
  let snapshotsKept ← count "history_length" standard.snapshotsKept
  return {
    acceptHeaders, acceptCompression, useHttp11, sendConnectionClose, ignoreCookies, sendRange,
    sendIfModifiedSince, sendIfNoneMatch, sendReferer, digestContent, digestAlgorithm, maxRate,
    timeoutSeconds, socketTimeoutMillis, maxLength, trustLevel, midfetchRule, userAgent, proxyHost,
    proxyPort, proxyUser, proxyPassword, snapshotsKept }

end FetchConfig

end Fetch

end WebHarvest
