import WebHarvest.Proofs.Fetch.Rejection
import WebHarvest.Proofs.Fetch.Series

/-! Attempts on an item for as long as it is asked for credentials and has some. A response that
asks for them and says for which realm ends this sooner or later: it takes the credentials that the
item has. One that does not say so leaves them, and may go on for ever.
-/

namespace WebHarvest.Fetch

open Access (Credential realmsOf)
open Recording (Stream Tokens)

variable {α : Type}

-----------------------------------------------------------------------------------------
-- Rounds
-----------------------------------------------------------------------------------------

/-- One attempt among others: the item before it, what else it depends on, and what came of it. -/
structure Round (α : Type) where
  before : CrawlItem
  occasion : Occasion
  execution : Execution α

namespace Round

/-- The credential of the item that is presented. -/
def presented? (round : Round α) : Option Credential :=
  (Fetcher.credential? round.occasion.shared.servers round.before).bind fun (credential, own) =>
    if own then some credential else none

/-- Another attempt is to be made: the response asks for credentials, and the item has some. -/
def wantsAnother (round : Round α) : Bool :=
  round.execution.item.status.bind FetchStatus.http? == some 401
    && round.execution.item.hasCredentials

/-- The response asks for credentials and has no challenge that can be read. -/
def isUnexplained (round : Round α) : Bool :=
  round.execution.item.response.any fun response =>
    response.status == 401 && (realmsOf response.headers "www-authenticate").isEmpty

end Round

/-- Attempts on an item, the first one first. Each is made on the item as the one before has left
it, made ready again, while another is to be made.
-/
def persist [Tokens α] (item : CrawlItem) : List Occasion → List (Round α)
  | [] => []
  | occasion :: later =>
    match occasion.attempt? item.reset with
    | none => []
    | some execution =>
      let round : Round α := ⟨item.reset, occasion, execution⟩
      round :: if round.wantsAnother then persist execution.item later else []

variable [Tokens α] {occasion : Occasion} {item : CrawlItem} {execution : Execution α}

/-- The rounds after one occasion more: none comes of it, or one, after which others may follow. -/
theorem persist_cons (item : CrawlItem) (occasion : Occasion) (later : List Occasion)
    : (persist item (occasion :: later) : List (Round α)) = []
      ∨ ∃ execution : Execution α,
          let round : Round α := ⟨item.reset, occasion, execution⟩
          occasion.attempt? item.reset = some execution
          ∧ ((round.wantsAnother = true
              ∧ persist item (occasion :: later) = round :: persist execution.item later)
            ∨ (round.wantsAnother = false ∧ persist item (occasion :: later) = [round])) := by
  cases executed : (occasion.attempt? item.reset : Option (Execution α)) with
  | none => exact .inl (by simp [persist, executed])
  | some execution =>
      refine .inr ⟨execution, rfl, ?_⟩
      cases another : Round.wantsAnother ⟨item.reset, occasion, execution⟩ with
      | true => exact .inl ⟨rfl, by simp [persist, executed, another]⟩
      | false => exact .inr ⟨rfl, by simp [persist, executed, another]⟩

-----------------------------------------------------------------------------------------
-- What one round leaves
-----------------------------------------------------------------------------------------

/-- If another round follows, the item has been asked for credentials. Either it has those that it
had, and does not know for what, or it had none.
-/
theorem unexplained_or_offered (executed : occasion.attempt? item.reset = some execution)
    (another : Round.wantsAnother ⟨item.reset, occasion, execution⟩ = true)
    : (Round.isUnexplained ⟨item.reset, occasion, execution⟩ = true
        ∧ execution.item.reset = item.reset)
      ∨ item.credentials = [] := by
  obtain ⟨asked, held⟩ := Bool.and_eq_true_iff.mp another
  obtain ⟨headers, response, left, -⟩ :=
    reset_of_challenged item.isFresh_reset executed (http?_eq_iff.mp asked)
  by_cases explained : realmsOf headers "www-authenticate" = []
  · left
    rw [Fetcher.challenged_of_unexplained explained] at left
    exact ⟨by simp [Round.isUnexplained, response, explained], left⟩
  · right
    by_contra had
    have taken : execution.item.credentials = [] :=
      (congrArg CrawlItem.credentials left).trans
        (Fetcher.credentials_challenged_of_held explained had)
    rw [CrawlItem.hasCredentials, taken] at held
    cases held

omit [Tokens α] in
/-- The item then has some. -/
theorem credentials_of_wantsAnother
    (another : Round.wantsAnother ⟨item.reset, occasion, execution⟩ = true)
    : execution.item.credentials ≠ [] := by
  simpa [CrawlItem.hasCredentials] using (Bool.and_eq_true_iff.mp another).2

/-- A credential that is presented as the item's own is one of the item. -/
theorem mem_of_own {servers : Access.ServerCache} {credential : Credential}
    (own : Fetcher.credential? servers item = some (credential, true))
    : credential ∈ item.credentials := by
  obtain ⟨host, -, chosen⟩ := Option.bind_eq_some_iff.mp own
  split at chosen
  · rename_i presented found
    cases chosen
    exact List.mem_of_find?_eq_some found
  · simp at chosen

omit [Tokens α] in
theorem Round.mem_of_presented? {round : Round α} {credential : Credential}
    (presented : round.presented? = some credential)
    : credential ∈ round.before.credentials := by
  obtain ⟨⟨offered, own⟩, chosen, same⟩ := Option.bind_eq_some_iff.mp presented
  cases own with
  | false => cases same
  | true =>
      cases same
      exact mem_of_own chosen

-----------------------------------------------------------------------------------------
-- How long it goes on
-----------------------------------------------------------------------------------------

/-- An item that has credentials goes on only after a response that does not say for what, by
induction on the occasions.
-/
theorem length_persist_of_held (occasions : List Occasion) {item : CrawlItem}
    (held : item.credentials ≠ [])
    : let rounds : List (Round α) := persist item occasions
      rounds.length ≤ rounds.countP (·.isUnexplained) + 1 := by
  intro rounds
  induction occasions generalizing item with
  | nil => exact Nat.zero_le _
  | cons occasion later ih =>
      obtain none | ⟨execution, executed, ⟨another, onward⟩ | ⟨-, last⟩⟩ :=
        persist_cons (α := α) item occasion later
      · simp [rounds, none]
      · obtain ⟨unexplained, same⟩ :=
          (unexplained_or_offered executed another).resolve_right held
        rw [show rounds = _ from onward, List.length_cons, List.countP_cons_of_pos unexplained]
        exact Nat.succ_le_succ (ih (credentials_of_wantsAnother another))
      · simp [rounds, last]

/-- Any item does so but once: a response may have given it the credentials. -/
theorem length_persist_le (item : CrawlItem) (occasions : List Occasion)
    : let rounds : List (Round α) := persist item occasions
      rounds.length ≤ rounds.countP (·.isUnexplained) + 2 := by
  intro rounds
  cases occasions with
  | nil => exact Nat.zero_le _
  | cons occasion later =>
      obtain none | ⟨execution, executed, ⟨another, onward⟩ | ⟨-, last⟩⟩ :=
        persist_cons (α := α) item occasion later
      · simp [rounds, none]
      · have rest :=
          length_persist_of_held (α := α) later (credentials_of_wantsAnother another)
        rw [show rounds = _ from onward, List.length_cons]
        exact Nat.succ_le_succ (Nat.le_trans rest (Nat.succ_le_succ
          (List.Sublist.countP_le (List.sublist_cons_self _ _))))
      · simp [rounds, last]

/-- A round that presents one of the item's credentials is the last one, or its response does not
say for what it asks.
-/
theorem pairwise_persist (item : CrawlItem) (occasions : List Occasion)
    : (persist item occasions : List (Round α)).Pairwise fun early _ =>
        early.presented?.isSome = true → early.isUnexplained = true := by
  induction occasions generalizing item with
  | nil => exact .nil
  | cons occasion later ih =>
      obtain none | ⟨execution, executed, ⟨another, onward⟩ | ⟨-, last⟩⟩ :=
        persist_cons (α := α) item occasion later
      · rw [none]
        exact .nil
      · rw [onward]
        refine .cons (fun _ _ presents => ?_) (ih execution.item)
        obtain ⟨credential, presented⟩ := Option.isSome_iff_exists.mp presents
        refine ((unexplained_or_offered executed another).resolve_right ?_).1
        exact List.ne_nil_of_mem (Round.mem_of_presented? presented)
      · rw [last]
        exact .cons (by simp) .nil

/-- A credential that an attempt presents, and that is refused by a response which is recorded,
stays with the item just if the response has no challenge that can be read. So an item is attempted
for as long as it is asked for credentials and has some no more than twice, and once more for each
such response; and none of its credentials is presented again but after one.
-/
theorem rejected_unless_unexplained (α : Type) [Tokens α]
    : (∀ (occasion : Occasion) (item : CrawlItem) (credential : Credential)
          (execution : Execution α) (head : Http.ResponseHead) (body : Stream),
        occasion.attempt? item = some execution
        → Fetcher.credential? occasion.shared.servers item = some (credential, true)
        → obtained? occasion.now occasion.cancelAt occasion.replies.head? = some (head, body)
        → head.status = 401
        → execution.state ≠ .connectLost
        → (credential ∈ execution.item.credentials
          ↔ realmsOf head.headers "www-authenticate" = []))
      ∧ ∀ (item : CrawlItem) (occasions : List Occasion),
          let rounds : List (Round α) := persist item occasions
          rounds.length ≤ rounds.countP (·.isUnexplained) + 2
          ∧ rounds.Pairwise fun early _ =>
            early.presented?.isSome = true → early.isUnexplained = true := by
  refine ⟨?_, fun item occasions =>
    ⟨length_persist_le item occasions, pairwise_persist item occasions⟩⟩
  intro occasion item credential execution head body executed own obtained unauthorized recorded
  rw [mem_credentials_iff_unexplained executed obtained unauthorized (mem_of_own own)]
  exact or_iff_right recorded

/-- A server that refuses without a challenge is presented the same credential in every round, and
there is no last one.
-/
theorem rejected_unless_unexplained_silent
    : let url : Url :=
        ⟨"http", "", none, true, some (.domain "a"), none, .segments ["x"], none, none⟩
      let credential : Credential := ⟨"a", none, "user", "word"⟩
      let item := { CrawlItem.new url with credentials := [credential] }
      let occasion : Occasion :=
        { fetcher := ⟨FetchConfig.standard, .empty, ⟨[]⟩⟩
          shared := .empty
          replies := [⟨0, .response ⟨401, .http11, .empty⟩ []⟩]
          wall := ⟨0, 0⟩
          now := 0
          cancelAt := none }
      Fetcher.credential? .empty item = some (credential, true)
      ∧ (∃ execution : Execution Float,
          occasion.attempt? item = some execution
          ∧ execution.state = .completed
          ∧ credential ∈ execution.item.credentials)
      ∧ ∀ count,
          let rounds : List (Round Float) := persist item (List.replicate count occasion)
          rounds.length = count ∧ ∀ round ∈ rounds, round.presented? = some credential := by
  intro url credential item occasion
  have outcome
      : (occasion.attempt? item : Option (Execution Float)).map
          (fun execution =>
            (execution.state, execution.item.reset,
              Round.wantsAnother ⟨item, occasion, execution⟩))
        = some (.completed, item, true) := by
    decide +kernel
  obtain ⟨execution, executed, told⟩ := Option.map_eq_some_iff.mp outcome
  obtain ⟨state, same, another⟩ := by simpa only [Prod.mk.injEq] using told
  have own : Fetcher.credential? .empty item = some (credential, true) := by decide +kernel
  have still : credential ∈ execution.item.reset.credentials := by
    rw [same]
    exact List.mem_singleton_self credential
  refine ⟨own, ⟨execution, executed, state, still⟩, fun count => ?_⟩
  -- Making the item ready again gives the same one in every round.
  suffices general
      : ∀ ready : CrawlItem,
          ready.reset = item
          → let rounds : List (Round Float) := persist ready (List.replicate count occasion)
            rounds.length = count ∧ ∀ round ∈ rounds, round.presented? = some credential from
    general item rfl
  induction count with
  | zero => exact fun _ _ => ⟨rfl, by simp [persist]⟩
  | succ count ih =>
      intro ready same'
      obtain ⟨length, presented⟩ := ih execution.item same
      simp only [List.replicate_succ, persist, same', executed, another, if_true,
        List.length_cons, length, List.mem_cons, forall_eq_or_imp, true_and]
      exact ⟨by simp [Round.presented?, own, occasion, Shared.empty], presented⟩

end WebHarvest.Fetch
