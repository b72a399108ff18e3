import WebHarvest.Url.Host

/-! URLs by their parts, and the text they are written as. -/

namespace WebHarvest

/-- The path of a URL: segments, or one plain text when nothing can be resolved against the URL. -/
inductive Url.Path where
  | plain (text : String)
  | segments (parts : List String)
  deriving DecidableEq, Repr

/-- A URL. The password is kept as it is written, an empty one as none; an authority without a host
is still written with its slashes. -/
structure Url where
  scheme : String
  username : String
  password : Option String
  hasAuthority : Bool
  host : Option Url.Host
  port : Option Nat
  path : Url.Path
  query : Option String
  fragment : Option String
  deriving DecidableEq, Repr

namespace Url

/-- The path's text. -/
def Path.text : Path → String
  | plain text => text
  | segments parts => String.join (parts.map ("/" ++ ·))

/-- The port that a special scheme uses unless another one is given. -/
def defaultPort? (scheme : String) : Option Nat :=
  match scheme with
  | "http" | "ws" => some 80
  | "https" | "wss" => some 443
  | "ftp" => some 21
  | _ => none

/-- The host's text, if there is a host. -/
def hostText? (url : Url) : Option String :=
  url.host.map Host.text

/-- The path's text. -/
def pathText (url : Url) : String :=
  url.path.text

/-- User name, password, host and port, with the slashes before them. -/
def authorityText (url : Url) : String :=
  let password := (url.password.map (":" ++ ·)).getD ""
  let user := url.username ++ password
  let port := (url.port.map fun p => ":" ++ toString p).getD ""
  if url.hasAuthority then
    "//" ++ (if user.isEmpty then "" else user ++ "@") ++ url.hostText?.getD "" ++ port
  else ""

/-- The text of a URL. -/
def text (url : Url) : String :=
  let path := match url.path, url.hasAuthority with
    | .segments ("" :: _ :: _), false => "/." ++ url.pathText
    | _, _ => url.pathText
  url.scheme ++ ":" ++ url.authorityText ++ path
    ++ (url.query.map ("?" ++ ·)).getD "" ++ (url.fragment.map ("#" ++ ·)).getD ""

end Url

end WebHarvest
