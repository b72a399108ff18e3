import Mathlib.Data.List.Induction
import WebHarvest.Proofs.Archive.CrewConsistency

/-! Revisits refer to responses that are there, however the workers of a crew get in each other's
way: content may be archived more than once, but no reference dangles and no capture is lost.
-/

namespace WebHarvest.Archive.Crew

open Calendar (Timestamp)

variable {policy : Policy} {crew : Crew}

-----------------------------------------------------------------------------------------
-- When a worker looked
-----------------------------------------------------------------------------------------

/-- A step changes what had been attached when a worker looked only if the worker looks in it. -/
theorem earlier?_step {next : CrewStep} {number : Nat} {earlier : List Attachment}
    (looked : ((crew.step policy next).workers number).earlier? = some earlier)
    : (crew.workers number).earlier? = some earlier
      ∨ next = .consult number
        ∧ crew.attached = earlier
        ∧ ∃ item, crew.workers number = .holding item := by
  by_cases own : number = next.worker
  · subst own
    cases next with
    | consult number =>
        cases held : crew.workers number with
        | holding item =>
            simp only [step, CrewStep.worker, held] at looked
            refine .inr ⟨rfl, ?_, item, held⟩
            split at looked <;> simpa [advance, Worker.earlier?] using looked
        | consulted item before =>
            exact .inl (by simpa [step, CrewStep.worker, held] using looked)
        | finished decision item before =>
            exact .inl (by simpa [step, CrewStep.worker, held] using looked)
    | conclude number wall =>
        refine .inl ?_
        cases held : crew.workers number with
        | holding item => simpa [step, CrewStep.worker, held] using looked
        | consulted item before =>
            simpa [step, CrewStep.worker, held, advance, Worker.earlier?] using looked
        | finished decision item before => simpa [step, CrewStep.worker, held] using looked
    | resume number =>
        refine .inl ?_
        cases held : crew.workers number with
        | holding item => simpa [step, CrewStep.worker, held] using looked
        | consulted item before => simpa [step, CrewStep.worker, held] using looked
        | finished decision item before =>
            simp [step, CrewStep.worker, held, advance, Worker.earlier?] at looked
  · rw [workers_step_of_ne own] at looked
    exact .inl looked

/-- What had been attached when a worker looked was attached before a step in which it did, by
induction on the steps from the last one.
-/
theorem earlier?_run (policy : Policy) (items : Nat → CrawlItem) (ids : IdSource)
    (steps : List CrewStep) {number : Nat} {earlier : List Attachment}
    (looked : (((start items ids).run policy steps).workers number).earlier? = some earlier)
    : ∃ before after item,
        steps = before ++ .consult number :: after
        ∧ ((start items ids).run policy before).workers number = .holding item
        ∧ ((start items ids).run policy before).attached = earlier := by
  induction steps using List.reverseRecOn with
  | nil => cases looked
  | append_singleton steps last ih =>
      rw [run, List.foldl_concat] at looked
      rcases earlier?_step looked with known | ⟨rfl, attached, item, held⟩
      · obtain ⟨before, after, item, rfl, held, attached⟩ := ih known
        exact ⟨before, after ++ [last], item, by simp, held, attached⟩
      · exact ⟨steps, [], item, rfl, held, attached⟩

-----------------------------------------------------------------------------------------
-- References and counts
-----------------------------------------------------------------------------------------

/-- The history tells of no key but those under which something is attached. -/
theorem IsConsistent.lookup?_eq_none_iff (consistent : crew.IsConsistent policy)
    (key : CaptureKey)
    : crew.archiving.history.lookup? key = none
      ↔ ∀ attachment ∈ crew.attached, attachment.key ≠ key := by
  rw [consistent.stored]
  cases under : attachedUnder key crew.attached with
  | nil => simpa [entryOf, attachedUnder] using under
  | cons first rest =>
      have member : first ∈ attachedUnder key crew.attached := by
        simp [under]
      obtain ⟨present, sameKey⟩ := List.mem_filter.mp member
      simp only [entryOf, reduceCtorEq, false_iff]
      exact fun absent => absent first present (of_decide_eq_true sameKey)

/-- An entry stays but for its count, since the first attachment under its key stays the first. -/
theorem IsConsistent.lookup?_run (consistent : crew.IsConsistent policy) {key : CaptureKey}
    {entry : CaptureEntry} (found : crew.archiving.history.lookup? key = some entry)
    (more : List CrewStep)
    : ∃ count,
        (crew.run policy more).archiving.history.lookup? key
        = some { entry with seenCount := count } := by
  rw [consistent.stored] at found
  obtain ⟨first, rest, under, url, date, recordId, -⟩ := entryOf_eq_some found
  obtain ⟨later, underMore⟩ :=
    attachedUnder_of_isPrefix (attached_isPrefix_run policy crew more) under
  refine ⟨(later.length + 1) % countModulus, ?_⟩
  rw [(consistent.run more).stored, underMore, entryOf, url, date, recordId]

/-- However the steps of any workers are interleaved, each revisit because of an identical digest
refers to the identifier, the URL and the date of a response that was attached under the same key
before its worker looked. Each response that takes part in deduplication is attached, and no two
attached responses share an identifier. The history tells of each key under which something is
attached, and of no other: its entry is that of the first response attached under the key, no
later step changes more of it than its count, and the count is that of all responses attached
under the key, in sixty-four bits. The items have been fetched; an earlier capture that one comes
with is looked up anew if it takes part in deduplication.
-/
theorem run_refers (policy : Policy) (items : Nat → CrawlItem) (ids : IdSource)
    (distinct : Function.Injective ids.name)
    (begun : ∀ worker, (items worker).begun.isSome)
    (unlooked
      : ∀ worker,
          (items worker).dedupKey? policy.keyByLength = none
          → (items worker).earlierCapture = none)
    (steps : List CrewStep)
    : let crew := (start items ids).run policy steps
      let history := crew.archiving.history
      (∀ number item earlier,
        crew.workers number = .finished (.revisit .identicalDigest) item earlier
        → ∃ before after held,
            steps = before ++ .consult number :: after
            ∧ ((start items ids).run policy before).workers number = .holding held
            ∧ ∃ attachment ∈ ((start items ids).run policy before).attached,
              ∃ revisit, attachment.IsReferredTo policy item revisit)
      ∧ (∀ number item earlier,
          crew.workers number = .finished .response item earlier
          → (item.dedupKey? policy.keyByLength).isSome
          → ∃ attachment ∈ crew.attached, attachment.IsOf policy number item)
      ∧ (∀ attachment ∈ crew.attached,
          attachment.record.type = .response
          ∧ attachment.record.date = attachment.begun.warcDate)
      ∧ (crew.attached.map (·.record.id)).Nodup
      ∧ (∀ key,
          history.lookup? key = none ↔ ∀ attachment ∈ crew.attached, attachment.key ≠ key)
      ∧ ∀ key entry,
          history.lookup? key = some entry
          → (∃ first rest,
              attachedUnder key crew.attached = first :: rest
              ∧ entry.url = first.record.url
              ∧ entry.date = first.begun
              ∧ entry.recordId = first.record.id)
            ∧ entry.seenCount = (attachedUnder key crew.attached).length % countModulus
            ∧ ∀ more, ∃ count,
                (crew.run policy more).archiving.history.lookup? key
                = some { entry with seenCount := count } := by
  intro crew history
  have consistent : crew.IsConsistent policy :=
    (isConsistent_start distinct begun unlooked).run steps
  refine ⟨?_, ?_, consistent.responses, consistent.distinct, consistent.lookup?_eq_none_iff, ?_⟩
  · intro number item earlier finished
    have worker := consistent.workers number
    rw [finished] at worker
    obtain ⟨-, -, refers, -⟩ := worker
    have looked : (crew.workers number).earlier? = some earlier := by
      rw [finished]
      rfl
    obtain ⟨before, after, held, split, holding, rfl⟩ :=
      earlier?_run policy items ids steps looked
    exact ⟨before, after, held, split, holding, refers rfl⟩
  · intro number item earlier finished
    have worker := consistent.workers number
    rw [finished] at worker
    obtain ⟨-, -, -, attaches⟩ := worker
    exact attaches rfl
  · intro key entry found
    have made := (consistent.stored key).symm.trans found
    obtain ⟨first, rest, under, url, date, recordId, seen⟩ := entryOf_eq_some made
    refine ⟨⟨first, rest, under, url, date, recordId⟩, ?_, consistent.lookup?_run found⟩
    rw [under, seen, List.length_cons]

/-- Two workers look before either concludes, so that both attach the same content; a third one
refers to what one of them has attached, and the history counts both.
-/
theorem run_refers_race
    : let url (path : String) : Url :=
        ⟨"http", "", none, true, some (.domain "a"), none, .segments [path], none, none⟩
      let items (worker : Nat) : CrawlItem :=
        { CrawlItem.new (url (if worker = 0 then "x" else "y")) with
          status := some (.http 200)
          begun := some ⟨worker, 0⟩
          digest := some ⟨.md5, []⟩
          recorded := some ⟨10, 8, 5⟩ }
      let ids : IdSource := ⟨fun number => String.ofList (List.replicate number 'i'), 0⟩
      let steps : List CrewStep :=
        [.consult 0, .consult 1, .conclude 1 ⟨9, 0⟩, .conclude 0 ⟨9, 0⟩, .consult 2,
          .conclude 2 ⟨9, 0⟩]
      let crew := (start items ids).run ⟨false, true⟩ steps
      Function.Injective ids.name
      ∧ (∀ worker, (items worker).begun.isSome)
      ∧ (∀ worker,
          (items worker).dedupKey? false = none → (items worker).earlierCapture = none)
      ∧ (∃ before after,
          steps = before ++ .consult 2 :: after
          ∧ ∃ attachment ∈ ((start items ids).run ⟨false, true⟩ before).attached,
            ∃ item revisit, attachment.IsReferredTo ⟨false, true⟩ item revisit)
      ∧ ∃ entry,
          crew.archiving.history.lookup? (.ofDigest ⟨.md5, []⟩) = some entry
          ∧ entry.seenCount = 2 := by
  intro url items ids steps crew
  have distinct : Function.Injective ids.name := by
    intro number other same
    simpa [ids] using congrArg (·.toList.length) same
  have begun (worker) : (items worker).begun.isSome := rfl
  have unlooked (worker)
      : (items worker).dedupKey? false = none → (items worker).earlierCapture = none :=
    fun _ => rfl
  obtain ⟨refers, -, -, -, -, stored⟩ :=
    run_refers ⟨false, true⟩ items ids distinct begun unlooked steps
  have same : (start items ids).run ⟨false, true⟩ steps = crew := rfl
  rw [same] at refers stored
  refine ⟨distinct, begun, unlooked, ?_, ?_⟩
  · have revisits : (crew.workers 2).decision? = some (.revisit .identicalDigest) := by
      decide +kernel
    cases held : crew.workers 2 with
    | holding item => simp [held, Worker.decision?] at revisits
    | consulted item earlier => simp [held, Worker.decision?] at revisits
    | finished decision item earlier =>
        simp only [held, Worker.decision?, Option.some.injEq] at revisits
        obtain ⟨before, after, -, split, -, attachment, present, revisit, referred⟩ :=
          refers 2 item earlier (revisits ▸ held)
        exact ⟨before, after, split, attachment, present, item, revisit, referred⟩
  · obtain ⟨entry, found⟩ := Option.isSome_iff_exists.mp
      (by decide +kernel
        : (crew.archiving.history.lookup? (.ofDigest ⟨.md5, []⟩)).isSome = true)
    have both
        : (attachedUnder (.ofDigest ⟨.md5, []⟩) crew.attached).length % countModulus = 2 := by
      decide +kernel
    exact ⟨entry, found, (stored _ entry found).2.1.trans both⟩

end WebHarvest.Archive.Crew
