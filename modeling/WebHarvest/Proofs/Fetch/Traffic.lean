import Mathlib.Logic.Function.Basic
import WebHarvest.Fetch.Execution

/-! Any number of items that are fetched with one fetcher. Their attempts may overlap: the request
of each is made from what the fetches share when it starts, and what it brings is settled when it
ends.
-/

namespace WebHarvest.Fetch

open Calendar (Timestamp)
open Clock (Instant)
open Recording (Tokens)

/-- Items by number, what fetches share, the launches of items that are under way, and all
requests that were made, whether or not a cancellation came before they were sent.
-/
structure Traffic where
  items : Nat → CrawlItem
  shared : Shared
  launched : Nat → Option Launch
  requests : List Http.Request

/-- What happens next to an item: it is screened, its request is made, its transfer ends, or it is
made ready for another attempt.
-/
inductive Movement (α : Type) where
  | screen (number : Nat)
  | takeOff (number : Nat) (wall : Timestamp) (now : Instant)
  | land (number : Nat) (transfer : Transfer α) (wall : Timestamp)
  | reset (number : Nat)

namespace Traffic

variable {α : Type}

/-- Items of which none is under way, and nothing was asked for yet. -/
def start (items : Nat → CrawlItem) (shared : Shared) : Traffic :=
  ⟨items, shared, fun _ => none, []⟩

/-- Whether an item is under way, so that nobody else has it. -/
def isUnderWay (traffic : Traffic) (number : Nat) : Bool :=
  (traffic.launched number).isSome

/-- One movement. Nothing happens to an item that is under way but the end of its transfer, and an
attempt whose transfer never ends stays under way.
-/
def move (fetcher : Fetcher) (traffic : Traffic) : Movement α → Traffic
  | .screen number =>
    if traffic.isUnderWay number then traffic
    else
      let (_, item, shared) := Fetcher.screen (traffic.items number) traffic.shared
      { traffic with items := Function.update traffic.items number item, shared }
  | .takeOff number wall now =>
    if traffic.isUnderWay number then traffic
    else
      let launch := fetcher.launch traffic.shared.servers (traffic.items number) wall now
      { traffic with
        launched := Function.update traffic.launched number (some launch)
        requests := traffic.requests ++ [launch.request] }
  | .land number transfer wall =>
    match traffic.launched number with
    | none => traffic
    | some launch =>
      match fetcher.land? launch transfer wall traffic.shared with
      | none => traffic
      | some (item, shared, _) =>
        { traffic with
          items := Function.update traffic.items number item
          shared
          launched := Function.update traffic.launched number none }
  | .reset number =>
    if traffic.isUnderWay number then traffic
    else
      { traffic with
        items := Function.update traffic.items number (traffic.items number).reset }

/-- What holds of all that is under way holds after a change for one item, if it holds of what that
item does then.
-/
theorem launched_update {holds : Launch → Prop} {launched : Nat → Option Launch}
    (kept : ∀ number launch, launched number = some launch → holds launch) (number : Nat)
    {next : Option Launch} (new : ∀ launch, next = some launch → holds launch)
    : ∀ other launch,
        Function.update launched number next other = some launch → holds launch := by
  intro other launch under
  by_cases same : other = number
  · subst same
    rw [Function.update_self] at under
    exact new launch under
  · rw [Function.update_of_ne same] at under
    exact kept other launch under

/-- Movements in order. -/
def run (fetcher : Fetcher) (traffic : Traffic) (movements : List (Movement α)) : Traffic :=
  movements.foldl (move fetcher) traffic

/-- An item that takes off and lands with nothing in between is fetched on its own. -/
theorem run_takeOff_land [Tokens α] (fetcher : Fetcher) (traffic : Traffic) {number : Nat}
    (free : traffic.launched number = none) (replies : List Reply) (wall : Timestamp)
    (now : Instant) (cancelAt : Option Instant) {execution : Execution α}
    (executed
      : fetcher.execute? (traffic.items number) traffic.shared replies wall now cancelAt
        = some execution)
    : let launch := fetcher.launch traffic.shared.servers (traffic.items number) wall now
      let transfer : Transfer α := .run fetcher.config launch cancelAt replies.head?
      traffic.run fetcher [.takeOff number wall now, .land number transfer wall]
        = { traffic with
            items := Function.update traffic.items number execution.item
            shared := execution.shared
            requests := traffic.requests ++ [launch.request] }
      ∧ execution.envelope = launch.request.envelope := by
  intro launch transfer
  unfold Fetcher.execute? at executed
  simp only [Option.bind_eq_bind, Option.bind_eq_some_iff] at executed
  obtain ⟨⟨item, after, state⟩, landed, rest⟩ := executed
  cases rest
  refine ⟨?_, rfl⟩
  have freeAgain : Function.update traffic.launched number none = traffic.launched := by
    rw [← free, Function.update_eq_self]
  simp only [run, List.foldl_cons, List.foldl_nil, move, isUnderWay, free, Option.isSome_none,
    Bool.false_eq_true, if_false, Function.update_self, Function.update_idem, freeAgain]
  rw [landed]

end Traffic

end WebHarvest.Fetch
