import WebHarvest.Http.Header
import WebHarvest.Http.Status
import WebHarvest.Text.Blank
import WebHarvest.Text.Decimal
import WebHarvest.Url.Basic

/-! Requests, the heads of responses, and their envelopes: the first line, the header fields and
the empty line, as they stand in front of a body. -/

namespace WebHarvest.Http

/-- Versions of the protocol. -/
inductive Version where
  | http09
  | http10
  | http11
  | http2
  | http3
  deriving DecidableEq, Repr

/-- A version as an envelope's first line has it. -/
def Version.text : Version → String
  | http09 => "HTTP/0.9"
  | http10 => "HTTP/1.0"
  | http11 => "HTTP/1.1"
  | http2 => "HTTP/2.0"
  | http3 => "HTTP/3.0"

/-- The end of a line. -/
def lineEnd : Bytes := [13, 10]

/-- A header field as a line. -/
def fieldLine (name : String) (value : Bytes) : Bytes :=
  Text.utf8 name ++ Text.utf8 ": " ++ value ++ lineEnd

/-- Header fields as lines. -/
def fieldLines (headers : Headers) : Bytes :=
  headers.toList.flatMap fun (name, value) => fieldLine name value

/-- The length that a message declares: its first content length, a decimal number below two to the
power of sixty-four with white space around it. -/
def declaredLength? (headers : Headers) : Option Nat :=
  (headers.first? "content-length").bind fun text =>
    Text.Decimal.readBelow? (Nat.pow 2 64) (Text.trim text.toList)

/-- A request. -/
structure Request where
  method : String
  url : Url
  version : Version
  headers : Headers
  deriving Repr

namespace Request

/-- The path and query that are asked for. -/
def target (request : Request) : String :=
  request.url.pathText ++ (request.url.query.map ("?" ++ ·)).getD ""

/-- The value of the host field that a request without one gets. -/
def hostField? (request : Request) : Option String :=
  request.url.hostText?.map fun host =>
    host ++ (request.url.port.map fun port => ":" ++ toString port).getD ""

/-- The host line, unless the request has a host field of its own or its URL has no host. -/
def hostLine (request : Request) : Bytes :=
  if request.headers.contains "host" then []
  else (request.hostField?.map fun host => fieldLine "host" (Text.utf8 host)).getD []

/-- Request line, host and header fields, and the empty line. -/
def envelope (request : Request) : Bytes :=
  Text.utf8 (request.method ++ " " ++ request.target ++ " " ++ request.version.text) ++ lineEnd
    ++ request.hostLine ++ fieldLines request.headers ++ lineEnd

end Request

/-- The head of a response. -/
structure ResponseHead where
  status : Nat
  version : Version
  headers : Headers
  deriving DecidableEq, Repr

namespace ResponseHead

/-- Status line, header fields and the empty line. -/
def envelope (head : ResponseHead) : Bytes :=
  Text.utf8 (head.version.text ++ " " ++ toString head.status ++ " " ++ reason head.status)
    ++ lineEnd ++ fieldLines head.headers ++ lineEnd

/-- The first content type, if it is readable. -/
def contentType? (head : ResponseHead) : Option String :=
  head.headers.first? "content-type"

end ResponseHead

end WebHarvest.Http
