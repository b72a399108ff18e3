/-! How a URL is asked for, and how asking ended. -/

namespace WebHarvest

/-- The method of a request. -/
inductive FetchMethod where
  | get
  | post
  deriving DecidableEq, Repr

/-- The method as a request has it. -/
def FetchMethod.text : FetchMethod → String
  | get => "GET"
  | post => "POST"

/-- How the last attempt ended: with a response, or with a failure on this side of it. -/
inductive FetchStatus where
  | http (code : Nat)
  | connectFailed
  | connectLost
  | prerequisiteFailed
  deriving DecidableEq, Repr

namespace FetchStatus

/-- A number for each status; failures are negative. -/
def code : FetchStatus → Int
  | http code => code
  | connectFailed => -2
  | connectLost => -3
  | prerequisiteFailed => -6

/-- The status code of the response, if there was one. -/
def http? : FetchStatus → Option Nat
  | http code => some code
  | _ => none

/-- Whether the response is a success or a redirection. -/
def isSuccess : FetchStatus → Bool
  | http code => 200 ≤ code && code ≤ 399
  | _ => false

/-- Whether the response says that nothing has changed. -/
def isNotModified : FetchStatus → Bool
  | http 304 => true
  | _ => false

end FetchStatus

/-- Bounds of one item that take the place of the configured ones: bytes, seconds, and kilobytes per
second. -/
structure FetchOverrides where
  maxLength : Option Nat
  timeoutSeconds : Option Nat
  maxRate : Option Nat
  deriving DecidableEq, Repr

/-- Overrides that change nothing. -/
def FetchOverrides.none : FetchOverrides := ⟨.none, .none, .none⟩

instance : Inhabited FetchOverrides := ⟨.none⟩

end WebHarvest
