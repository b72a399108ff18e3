import Mathlib.Data.List.DropRight
import Mathlib.Data.List.Induction
import WebHarvest.Item.Basic

/-! What is noted on an item in the course of an attempt, in any order. Beginning, completion and
digest stay what they were noted as first. A response keeps its place against responses only, so
that the status is that of the first response behind the last failure.
-/

namespace WebHarvest

-----------------------------------------------------------------------------------------
-- Which of several statuses stands
-----------------------------------------------------------------------------------------

namespace FetchStatus

/-- Whether there was a response. -/
def isResponse (status : FetchStatus) : Bool :=
  status.http?.isSome

/-- What stands after a status is noted: a response leaves the one that stands already. -/
def replaced (standing : Option FetchStatus) (status : FetchStatus) : Option FetchStatus :=
  if status.isResponse then (standing.filter isResponse).or (some status) else some status

/-- The status that stands when some have been noted in order: the first one of the responses at the
end, or the last failure if no response comes behind it.
-/
def standing? (noted : List FetchStatus) : Option FetchStatus :=
  (noted.rtakeWhile isResponse).head?.or noted.getLast?

/-- Where no response comes last, none stands. -/
theorem filter_standing?_of_none_last {noted : List FetchStatus}
    (noneLast : noted.rtakeWhile isResponse = [])
    : (standing? noted).filter isResponse = none := by
  rw [Option.filter_eq_none_iff, standing?, noneLast, List.head?_nil, Option.none_or]
  intro status last
  obtain ⟨before, rfl⟩ := List.getLast?_eq_some_iff.mp last
  simpa using List.rtakeWhile_eq_nil_iff.mp noneLast (by simp)

/-- One more status replaces the one that stands or leaves it, by cases of what comes last: a
response that comes behind a response is not the first of those at the end.
-/
theorem standing?_concat (noted : List FetchStatus) (status : FetchStatus)
    : standing? (noted ++ [status]) = replaced (standing? noted) status := by
  rw [replaced]
  split
  · rename_i response
    rw [standing?, List.rtakeWhile_concat_pos isResponse noted status response]
    cases last : noted.rtakeWhile isResponse with
    | nil => simp [filter_standing?_of_none_last last]
    | cons first rest =>
        have first' : first.isResponse = true :=
          List.mem_rtakeWhile_imp (last ▸ List.mem_cons_self)
        simp [standing?, last, Option.filter_some, first']
  · rename_i failure
    rw [standing?, List.rtakeWhile_concat_neg isResponse noted status failure]
    simp

end FetchStatus

-----------------------------------------------------------------------------------------
-- Notes
-----------------------------------------------------------------------------------------

/-- What can be noted between two resets. -/
inductive Note where
  | status (noted : FetchStatus)
  | begun (moment : Calendar.Timestamp)
  | completed (moment : Calendar.Timestamp)
  | digest (noted : ContentDigest)

namespace Note

/-- The status that is noted, if it is one. -/
@[simp]
def status? : Note → Option FetchStatus
  | status noted => some noted
  | begun _ | completed _ | digest _ => none

/-- The beginning that is noted, if it is one. -/
@[simp]
def begun? : Note → Option Calendar.Timestamp
  | begun moment => some moment
  | status _ | completed _ | digest _ => none

/-- The completion that is noted, if it is one. -/
@[simp]
def completed? : Note → Option Calendar.Timestamp
  | completed moment => some moment
  | status _ | begun _ | digest _ => none

/-- The digest that is noted, if it is one. -/
@[simp]
def digest? : Note → Option ContentDigest
  | digest noted => some noted
  | status _ | begun _ | completed _ => none

end Note

namespace CrawlItem

open FetchStatus (http? isResponse replaced standing?)

/-- The item with one thing noted. -/
def note (item : CrawlItem) : Note → CrawlItem
  | .status noted => item.setStatus noted
  | .begun moment => item.setBegun moment
  | .completed moment => item.setCompleted moment
  | .digest noted => item.setDigest noted

/-- The item with several things noted in order. -/
def noteAll (item : CrawlItem) (notes : List Note) : CrawlItem :=
  notes.foldl note item

/-- A status that is noted changes the status only: a response that stands already is kept against
another one.
-/
theorem setStatus_eq (item : CrawlItem) (noted : FetchStatus)
    : item.setStatus noted = { item with status := replaced item.status noted } := by
  cases noted with
  | connectFailed | connectLost | prerequisiteFailed =>
      simp [setStatus, replaced, isResponse, http?]
  | http code =>
      unfold setStatus
      split
      · rename_i known _
        have stays : replaced item.status (.http code) = item.status := by
          rw [known]
          rfl
        rw [stays]
      · rename_i different
        have noResponse : item.status.filter isResponse = none := by
          rw [Option.filter_eq_none_iff]
          intro standing known
          cases standing with
          | http other => exact (different other code known rfl).elim
          | connectFailed | connectLost | prerequisiteFailed => exact Bool.false_ne_true
        rw [replaced, noResponse]
        rfl

/-- The item with what some notes in order come to, each kind by itself. -/
def summed (item : CrawlItem) (notes : List Note) : CrawlItem :=
  { item with
    status := standing? (item.status.toList ++ notes.filterMap Note.status?)
    begun := item.begun.or (notes.findSome? Note.begun?)
    completed := item.completed.or (notes.findSome? Note.completed?)
    digest := item.digest.or (notes.findSome? Note.digest?) }

/-- No notes come to nothing. -/
theorem summed_nil (item : CrawlItem) : item.summed [] = item := by
  have stands : standing? item.status.toList = item.status := by
    cases known : item.status with
    | none => rfl
    | some status => exact (FetchStatus.standing?_concat [] status).trans (ite_self _)
  simp [summed, stands]

/-- One more note is summed up with those before it, by cases of the note. -/
theorem note_summed (item : CrawlItem) (notes : List Note) (note : Note)
    : (item.summed notes).note note = item.summed (notes ++ [note]) := by
  cases note with
  | status noted =>
      have stands := FetchStatus.standing?_concat
        (item.status.toList ++ notes.filterMap Note.status?) noted
      rw [List.append_assoc] at stands
      simp [CrawlItem.note, setStatus_eq, summed, stands]
  | begun moment => simp [CrawlItem.note, setBegun, summed, List.filterMap_cons]
  | completed moment => simp [CrawlItem.note, setCompleted, summed, List.filterMap_cons]
  | digest noted => simp [CrawlItem.note, setDigest, summed, List.filterMap_cons]

/-- Notes in order come to their sum, by induction from the last one. -/
theorem noteAll_eq_summed (item : CrawlItem) (notes : List Note)
    : item.noteAll notes = item.summed notes := by
  induction notes using List.reverseRecOn with
  | nil => exact (summed_nil item).symm
  | append_singleton notes note ih =>
      rw [← note_summed, ← ih, noteAll, noteAll, List.foldl_append]
      rfl

/-- One note changes no beginning, completion or digest that stands, a response into a failure only,
and a failure into whatever status is noted, by cases of the note.
-/
theorem note_keepsFirst (item : CrawlItem) (note : Note)
    : (∀ moment ∈ item.begun, (item.note note).begun = some moment)
      ∧ (∀ moment ∈ item.completed, (item.note note).completed = some moment)
      ∧ (∀ digest ∈ item.digest, (item.note note).digest = some digest)
      ∧ ∀ standing ∈ item.status,
          (item.note note).status
          = if standing.isResponse then
              some ((note.status?.filter (!·.isResponse)).getD standing)
            else some (note.status?.getD standing) := by
  cases note with
  | status noted =>
      simp only [CrawlItem.note, setStatus_eq]
      refine ⟨fun _ known => known, fun _ known => known, fun _ known => known, ?_⟩
      intro standing known
      rw [known, replaced, Option.filter_some]
      by_cases response : noted.isResponse <;> by_cases stands : standing.isResponse <;>
        simp [response, stands, Option.filter_some]
  | begun moment =>
      refine ⟨?_, fun _ known => known, fun _ known => known, ?_⟩
      · intro first known
        simp [CrawlItem.note, setBegun, Option.mem_def.mp known]
      · intro standing known
        simpa [CrawlItem.note, setBegun] using known
  | completed moment =>
      refine ⟨fun _ known => known, ?_, fun _ known => known, ?_⟩
      · intro first known
        simp [CrawlItem.note, setCompleted, Option.mem_def.mp known]
      · intro standing known
        simpa [CrawlItem.note, setCompleted] using known
  | digest noted =>
      refine ⟨fun _ known => known, fun _ known => known, ?_, ?_⟩
      · intro first known
        simp [CrawlItem.note, setDigest, Option.mem_def.mp known]
      · intro standing known
        simpa [CrawlItem.note, setDigest] using known

/-- Whatever is noted in whatever order, beginning, completion and digest are those that stood
before or were noted first, the status is that of the first response behind the last failure, or
that failure if no response comes behind it, and nothing else changes. So one more note changes a
beginning, completion or digest never, a response into a failure only, and a failure into whatever
status is noted.
-/
theorem noteAll_keepsFirst (item : CrawlItem) (notes : List Note)
    : let noted := item.noteAll notes
      noted
        = { item with
            status := standing? (item.status.toList ++ notes.filterMap Note.status?)
            begun := item.begun.or (notes.findSome? Note.begun?)
            completed := item.completed.or (notes.findSome? Note.completed?)
            digest := item.digest.or (notes.findSome? Note.digest?) }
      ∧ ∀ note : Note,
          let next := item.noteAll (notes ++ [note])
          (∀ moment ∈ noted.begun, next.begun = some moment)
          ∧ (∀ moment ∈ noted.completed, next.completed = some moment)
          ∧ (∀ digest ∈ noted.digest, next.digest = some digest)
          ∧ ∀ standing ∈ noted.status,
              next.status
              = if standing.isResponse then
                  some ((note.status?.filter (!·.isResponse)).getD standing)
                else some (note.status?.getD standing) := by
  refine ⟨noteAll_eq_summed item notes, ?_⟩
  intro note
  have next : item.noteAll (notes ++ [note]) = (item.noteAll notes).note note := by
    rw [noteAll, List.foldl_append]
    rfl
  rw [next]
  exact note_keepsFirst _ note

/-- A lost connection does not stay against a later response, nor a response against a host that was
not found, nor one failure against another.
-/
theorem noteAll_keepsFirst_overwritten
    : let item :=
        CrawlItem.new
          ⟨"http", "", none, true, some (.domain "a.example"), none, .segments ["x"], none, none⟩
      (item.noteAll [.status .connectLost]).status = some .connectLost
      ∧ (item.noteAll [.status .connectLost, .status (.http 200)]).status = some (.http 200)
      ∧ (item.noteAll [.status (.http 200), .status .prerequisiteFailed]).status
        = some .prerequisiteFailed
      ∧ (item.noteAll [.status .connectFailed, .status .connectLost]).status
        = some .connectLost := by
  decide

end CrawlItem

end WebHarvest
