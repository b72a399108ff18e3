import WebHarvest.Exchange.Access
import WebHarvest.Exchange.Config
import WebHarvest.Proofs.Capture.Storage
import WebHarvest.Proofs.Digest.Text
import WebHarvest.Proofs.Json.Forms

/-! What is exchanged between crawls as JSON keeps its values: settings and rules, bounds, statuses
and snapshots of items, entries of captures, and credentials.
-/

namespace WebHarvest

open Json (IsForm isForm_count isForm_text isForm_bool isForm_nat isForm_int)
open Json.Fields (read_required read_optional read_orElse held_of_required held_of_optional
  held_of_orElse)

-----------------------------------------------------------------------------------------
-- Instants and digests
-----------------------------------------------------------------------------------------

/-- Instants of civil time. -/
theorem Calendar.Timestamp.isForm : IsForm toJson ofJson? IsCivil where
  plain t := .text _
  back t civil := ofJson?_toJson civil
  held json t read := by
    obtain ⟨text, -, read⟩ := Option.bind_eq_some_iff.mp read
    exact Rfc3339.isCivil_of_read? read

/-- Algorithms by their names. -/
theorem DigestAlgorithm.isForm : IsForm toJson ofJson? fun _ => True where
  plain algorithm := .text _
  back algorithm _ := by cases algorithm <;> rfl
  held _ _ _ := trivial

/-- Digests that are as long as their algorithm's. -/
theorem ContentDigest.isForm : IsForm toJson ofJson? IsWhole where
  plain digest := .text _
  back digest whole := by
    rw [toJson, ofJson?, Json.text?_text, Option.bind_some, ofText_text whole]
    rfl
  held json digest read := by
    obtain ⟨text, -, read⟩ := Option.bind_eq_some_iff.mp read
    cases found : ofText text with
    | error why =>
        rw [found] at read
        cases read
    | ok other =>
        rw [found] at read
        cases read
        exact isWhole_of_ofText found

-----------------------------------------------------------------------------------------
-- Items
-----------------------------------------------------------------------------------------

/-- Bounds that fit into sixty-four bits. -/
structure FetchOverrides.IsHeld (overrides : FetchOverrides) : Prop where
  maxLength : ∀ length ∈ overrides.maxLength, length < Nat.pow 2 64
  timeoutSeconds : ∀ seconds ∈ overrides.timeoutSeconds, seconds < Nat.pow 2 64
  maxRate : ∀ rate ∈ overrides.maxRate, rate < Nat.pow 2 64

/-- The bounds of an item by the names of their fields. -/
theorem FetchOverrides.isForm : IsForm toJson ofJson? IsHeld where
  plain overrides := by
    apply Json.isPlain_ofMembers
    simp only [List.forall_mem_cons, List.not_mem_nil, false_implies, implies_true, and_true]
    exact ⟨isForm_count.isPlain_orNull _, isForm_count.isPlain_orNull _,
      isForm_count.isPlain_orNull _⟩
  back overrides held := by
    refine Json.read_fields (by simp) (by simp) ?_
    refine read_optional isForm_count rfl overrides.maxLength (by simp) held.maxLength ?_
    refine read_optional isForm_count rfl overrides.timeoutSeconds (by simp) held.timeoutSeconds ?_
    refine read_optional isForm_count rfl overrides.maxRate (by simp) held.maxRate ?_
    rfl
  held json overrides read := by
    simp only [ofJson?, Option.bind_eq_bind, Option.bind_eq_some_iff, Option.pure_def,
      Option.some.injEq] at read
    obtain ⟨fields, -, maxLength, first, timeoutSeconds, second, maxRate, third, rfl⟩ := read
    exact {
      maxLength := held_of_optional isForm_count first
      timeoutSeconds := held_of_optional isForm_count second
      maxRate := held_of_optional isForm_count third
    }

/-- A status whose code, if it has one, fits into sixteen bits. -/
def FetchStatus.IsHeld (status : FetchStatus) : Prop :=
  ∀ code ∈ status.http?, code < Nat.pow 2 16

/-- A status by its kind: an object of one member if there is a code, else a name. -/
theorem FetchStatus.isForm : IsForm toJson ofJson? IsHeld where
  plain status := by
    cases status with
    | http code => exact Json.isPlain_ofMembers (by simpa using .int _)
    | connectFailed | connectLost | prerequisiteFailed => exact .text _
  back status held := by
    cases status with
    | http code =>
        have back := (isForm_nat (Nat.pow 2 16)).back code (held code rfl)
        simp [ofJson?, toJson, Json.ofMembers, back]
    | connectFailed | connectLost | prerequisiteFailed =>
        simp [ofJson?, toJson, Json.text, Json.choice?]
  held json status read := by
    intro code same
    unfold ofJson? at read
    split at read
    · rename_i json
      obtain ⟨other, source, rfl⟩ := Option.map_eq_some_iff.mp read
      cases same
      exact (isForm_nat (Nat.pow 2 16)).held json code source
    · split at read
      all_goals
        cases read
        try cases same

/-- A snapshot that can be held: its status fits into thirty-two bits and its length into
sixty-four, its date is an instant of civil time, and its digest is as long as the algorithm's.
-/
structure FetchSnapshot.IsHeld (snapshot : FetchSnapshot) : Prop where
  status : -Int.pow 2 31 ≤ snapshot.status ∧ snapshot.status < Int.pow 2 31
  fetchedAt : snapshot.fetchedAt.IsCivil
  digest : ∀ digest ∈ snapshot.digest, digest.IsWhole
  referenceLength : ∀ length ∈ snapshot.referenceLength, length < Nat.pow 2 64

/-- A snapshot by the names of its fields. -/
theorem FetchSnapshot.isForm : IsForm toJson ofJson? IsHeld where
  plain snapshot := by
    apply Json.isPlain_ofMembers
    simp only [List.forall_mem_cons, List.not_mem_nil, false_implies, implies_true, and_true]
    exact ⟨.int _, .text _, isForm_text.isPlain_orNull _, isForm_text.isPlain_orNull _,
      ContentDigest.isForm.isPlain_orNull _, isForm_count.isPlain_orNull _⟩
  back snapshot held := by
    refine Json.read_fields (by simp) (by simp) ?_
    refine read_required (isForm_int _ _) snapshot.status (by simp) held.status ?_
    refine read_required Calendar.Timestamp.isForm snapshot.fetchedAt (by simp) held.fetchedAt ?_
    refine read_optional isForm_text rfl snapshot.etag (by simp) (fun _ _ => trivial) ?_
    refine read_optional isForm_text rfl snapshot.lastModified (by simp) (fun _ _ => trivial) ?_
    refine read_optional ContentDigest.isForm rfl snapshot.digest (by simp) held.digest ?_
    refine read_optional isForm_count rfl snapshot.referenceLength (by simp) held.referenceLength ?_
    rfl
  held json snapshot read := by
    simp only [ofJson?, Option.bind_eq_bind, Option.bind_eq_some_iff, Option.pure_def,
      Option.some.injEq] at read
    obtain ⟨fields, -, status, coded, fetchedAt, dated, etag, -, lastModified, -, digest,
      digested, referenceLength, counted, rfl⟩ := read
    exact {
      status := held_of_required (isForm_int _ _) coded
      fetchedAt := held_of_required Calendar.Timestamp.isForm dated
      digest := held_of_optional ContentDigest.isForm digested
      referenceLength := held_of_optional isForm_count counted
    }

-----------------------------------------------------------------------------------------
-- Captures
-----------------------------------------------------------------------------------------

/-- An entry by the names of its fields. -/
theorem CaptureEntry.isForm : IsForm toJson ofJson? IsStorable where
  plain := isPlain_toJson
  back entry storable := ofJson?_toJson storable
  held json entry read := by
    simp only [ofJson?, Option.bind_eq_bind, Option.bind_eq_some_iff, Option.pure_def,
      Option.some.injEq] at read
    obtain ⟨fields, -, url, -, date, dated, recordId, -, seenCount, counted, rfl⟩ := read
    exact ⟨held_of_required Calendar.Timestamp.isForm dated,
      held_of_required isForm_count counted⟩

-----------------------------------------------------------------------------------------
-- Credentials
-----------------------------------------------------------------------------------------

namespace Access

/-- A credential by the names of its fields. -/
theorem Credential.isForm
    : IsForm toJson (ofJson? Json.convention) fun _ => True where
  plain credential := by
    apply Json.isPlain_ofMembers
    simp only [List.forall_mem_cons, List.not_mem_nil, false_implies, implies_true, and_true]
    exact ⟨.text _, isForm_text.isPlain_orNull _, .text _, .text _⟩
  back credential _ := by
    refine Json.read_fields (by simp) (by simp) ?_
    refine read_required isForm_text credential.domain (by simp) trivial ?_
    refine read_optional isForm_text rfl credential.realm (by simp) (fun _ _ => trivial) ?_
    refine read_required isForm_text credential.login (by simp) trivial ?_
    refine read_required isForm_text credential.password (by simp) trivial ?_
    rfl
  held _ _ _ := trivial

/-- Credentials in their order. -/
theorem CredentialStore.isForm : IsForm toJson ofJson? fun _ => True where
  plain store := Credential.isForm.list.plain store.credentials
  back store _ := by
    have back := Credential.isForm.list.back store.credentials fun _ _ => trivial
    exact congrArg (Option.map CredentialStore.mk) back
  held _ _ _ := trivial

end Access

end WebHarvest
