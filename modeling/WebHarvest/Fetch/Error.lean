/-! What goes wrong with fetching: settings that cannot be used, no response, or a response that is
lost on the way. -/

namespace WebHarvest.Fetch

/-- Why a configuration cannot be used. The first three name the line of an accept header. -/
inductive ConfigError where
  | headerWithoutColon (line : String)
  | headerName (line : String)
  | headerValue (line : String)
  | proxyWithoutHost
  | noSnapshots
  deriving DecidableEq, Repr

/-- The wording of a configuration error. -/
def ConfigError.message : ConfigError → String
  | headerWithoutColon line => "accept header without ':': " ++ line
  | headerName line => line ++ ": invalid HTTP header name"
  | headerValue line => line ++ ": failed to parse header value"
  | proxyWithoutHost => "proxy port or user set without proxy host"
  | noSnapshots => "history_length must be at least 1"

/-- Why there is no response, or not a whole one. -/
inductive FetchError where
  | connect (why : String)
  | lost (why : String)
  | config (error : ConfigError)
  deriving DecidableEq, Repr

/-- The wording of an error. -/
def FetchError.message : FetchError → String
  | connect why => "connect failed: " ++ why
  | lost why => "connection lost: " ++ why
  | config error => "invalid configuration: " ++ error.message

end WebHarvest.Fetch
