import Mathlib.Logic.Function.Basic
import WebHarvest.Archive.Pipeline

/-! Workers that archive items at the same time. Each looks for an earlier capture first and
concludes later, and between the two any others may come.
-/

namespace WebHarvest.Archive

open Calendar (Timestamp)

-----------------------------------------------------------------------------------------
-- Workers and their steps
-----------------------------------------------------------------------------------------

/-- A response that a worker has archived under a key. -/
structure Attachment where
  worker : Nat
  key : CaptureKey
  record : ArchiveRecord
  begun : Timestamp
  deriving DecidableEq

/-- A worker holds an item, has looked for an earlier capture of it, or has concluded. What had been
attached when it looked stays with it.
-/
inductive Worker where
  | holding (item : CrawlItem)
  | consulted (item : CrawlItem) (earlier : List Attachment)
  | finished (decision : Decision) (item : CrawlItem) (earlier : List Attachment)

/-- What had been attached when the worker looked, if it has looked. -/
def Worker.earlier? : Worker → Option (List Attachment)
  | .holding _ => none
  | .consulted _ earlier | .finished _ _ earlier => some earlier

/-- What the worker has decided, if it has concluded. -/
def Worker.decision? : Worker → Option Decision
  | .holding _ | .consulted .. => none
  | .finished decision _ _ => some decision

/-- Workers by number, what archiving changes besides their items, and what was attached so far. -/
structure Crew where
  workers : Nat → Worker
  archiving : Archiving
  attached : List Attachment

/-- What happens next: a worker looks for an earlier capture, concludes at some time on the wall, or
takes its item up once more.
-/
inductive CrewStep where
  | consult (worker : Nat)
  | conclude (worker : Nat) (wall : Timestamp)
  | resume (worker : Nat)

/-- The worker whose step it is. -/
def CrewStep.worker : CrewStep → Nat
  | .consult number | .conclude number _ | .resume number => number

/-- What an item attaches: its response, if it became one and takes part in deduplication. -/
def attachment? (policy : Policy) (worker : Nat) (item later : CrawlItem) (decision : Decision)
    : Option Attachment :=
  if decision = .response then do
    let key ← item.dedupKey? policy.keyByLength
    let record ← later.records.principal?
    let begun ← item.begun
    return { worker, key, record, begun }
  else none

namespace Crew

/-- Each worker holds its item, and the history is empty. -/
def start (items : Nat → CrawlItem) (ids : IdSource) : Crew :=
  ⟨fun worker => .holding (items worker), ⟨.empty, ids⟩, []⟩

/-- A worker has got on. -/
def advance (crew : Crew) (number : Nat) (worker : Worker) : Crew :=
  { crew with workers := Function.update crew.workers number worker }

/-- One step. Nothing happens if it is not the worker's next one. -/
def step (policy : Policy) (crew : Crew) : CrewStep → Crew
  | .consult number =>
    match crew.workers number with
    | .holding item =>
      if isArchivable item then
        crew.advance number
          (.consulted (item.loadEarlier policy.keyByLength crew.archiving.history)
            crew.attached)
      else crew.advance number (.finished .skipped item crew.attached)
    | .consulted .. | .finished .. => crew
  | .conclude number wall =>
    match crew.workers number with
    | .consulted item earlier =>
      let (decision, later, archiving) := Archive.conclude policy item wall crew.archiving
      { crew.advance number (.finished decision later earlier) with
        archiving
        attached := crew.attached ++ (attachment? policy number item later decision).toList }
    | .holding _ | .finished .. => crew
  | .resume number =>
    match crew.workers number with
    | .finished _ item _ => crew.advance number (.holding item)
    | .holding _ | .consulted .. => crew

/-- Steps in order. -/
def run (policy : Policy) (crew : Crew) (steps : List CrewStep) : Crew :=
  steps.foldl (step policy) crew

/-- A worker that concludes at once after it has looked archives its item as a whole. -/
theorem run_consult_conclude (policy : Policy) (crew : Crew) {number : Nat} {item : CrawlItem}
    (holding : crew.workers number = .holding item) (wall : Timestamp)
    : let (decision, later, archiving) := process policy item wall crew.archiving
      let concluded := crew.run policy [.consult number, .conclude number wall]
      concluded.workers number = .finished decision later crew.attached
      ∧ concluded.archiving = archiving := by
  cases archivable : isArchivable item with
  | false =>
      simp [run, step, holding, process, archivable, advance]
  | true =>
      simp [run, step, holding, process, archivable, advance]

-----------------------------------------------------------------------------------------
-- What a step leaves alone
-----------------------------------------------------------------------------------------

variable {policy : Policy} {crew : Crew}

/-- A step leaves all other workers alone, by cases of the step and of its worker. -/
theorem workers_step_of_ne {next : CrewStep} {number : Nat} (other : number ≠ next.worker)
    : (crew.step policy next).workers number = crew.workers number := by
  have kept (worker : Worker) : (crew.advance next.worker worker).workers number
      = crew.workers number :=
    Function.update_of_ne other _ _
  cases next with
  | consult acting =>
      cases held : crew.workers acting with
      | holding item =>
          simp only [step, held]
          split <;> exact kept _
      | consulted item earlier => simp only [step, held]
      | finished decision item earlier => simp only [step, held]
  | conclude acting wall =>
      cases held : crew.workers acting with
      | holding item => simp only [step, held]
      | consulted item earlier =>
          simp only [step, held]
          exact kept _
      | finished decision item earlier => simp only [step, held]
  | resume acting =>
      cases held : crew.workers acting with
      | holding item => simp only [step, held]
      | consulted item earlier => simp only [step, held]
      | finished decision item earlier =>
          simp only [step, held]
          exact kept _

/-- What is attached stays attached in its order, at each step. -/
theorem attached_isPrefix_step (policy : Policy) (crew : Crew) (next : CrewStep)
    : crew.attached <+: (crew.step policy next).attached := by
  cases next with
  | consult number =>
      simp only [step]
      split
      · split <;> exact List.prefix_rfl
      · exact List.prefix_rfl
      · exact List.prefix_rfl
  | conclude number wall =>
      simp only [step]
      split
      · exact List.prefix_append _ _
      · exact List.prefix_rfl
      · exact List.prefix_rfl
  | resume number =>
      simp only [step]
      split <;> exact List.prefix_rfl

/-- And through all steps. -/
theorem attached_isPrefix_run (policy : Policy) (crew : Crew) (steps : List CrewStep)
    : crew.attached <+: (crew.run policy steps).attached := by
  induction steps generalizing crew with
  | nil => exact List.prefix_rfl
  | cons next steps ih => exact (attached_isPrefix_step policy crew next).trans (ih _)

end Crew

end WebHarvest.Archive
