import WebHarvest.Proofs.Exchange.Forms

/-! The settings of fetching keep their values when they are exchanged as JSON texts, and so does
all that is exchanged beside them.
-/

namespace WebHarvest

open Json (IsForm KeepsTexts isForm_count isForm_text isForm_bool isForm_nat)
open Json.Fields (read_required read_optional read_orElse held_of_required held_of_optional
  held_of_orElse)

-----------------------------------------------------------------------------------------
-- What can be kept until it is known what it is for
-----------------------------------------------------------------------------------------

namespace Json

/-- A number of sixty-four bits is no more than doubled in double precision. -/
theorem toDouble_lt {n : Nat} (small : n < Nat.pow 2 64)
    : JsonNumber.toDouble n < Nat.pow 2 66 := by
  let unit := Nat.pow 2 (n.log2 - 52)
  have unitSmall : unit ≤ Nat.pow 2 11 := by
    have bits : n.log2 < 64 := by
      by_cases zero : n = 0
      · subst zero
        decide
      · exact (Nat.log2_lt zero).mpr small
    exact Nat.pow_le_pow_right (by decide) (by omega)
  have kept : n / unit * unit ≤ n := Nat.div_mul_le_self n unit
  have rounded : JsonNumber.toDouble n ≤ (n / unit + 1) * unit := by
    unfold JsonNumber.toDouble
    dsimp only
    split
    · exact Nat.le_refl _
    · exact Nat.mul_le_mul_right _ (Nat.le_succ _)
  rw [Nat.succ_mul] at rounded
  have large : Nat.pow 2 64 + Nat.pow 2 11 < Nat.pow 2 66 := by decide
  omega

/-- A count can be kept: it has no more leading digits than sixty-four bits hold, and is far from
the greatest double.
-/
theorem isKeepable_nat {n : Nat} (small : n < Nat.pow 2 64) (room : Nat)
    : (nat n).isKeepable room = true := by
  have leading : JsonNumber.leadingDigits n = (n, 0) := by
    rw [JsonNumber.leadingDigits, if_pos small]
  have bounded : JsonNumber.toDouble n < JsonNumber.doubleBound :=
    Nat.lt_trans (toDouble_lt small) (by decide +kernel)
  have one
      : JsonNumber.toDouble n * JsonNumber.toDouble (Nat.pow 10 0) = JsonNumber.toDouble n := by
    rw [show JsonNumber.toDouble (Nat.pow 10 0) = 1 by decide, Nat.mul_one]
  have within : ((0 : Int) + (0 : Nat) ≤ JsonNumber.greatestExponent) = True := by decide
  have nothing : ((0 : Int) + (0 : Nat)).toNat = 0 := rfl
  simp only [nat, isKeepable, JsonNumber.isInRange, JsonNumber.areInRange, Int.natAbs_natCast,
    leading, within, nothing, one, bounded, decide_true, Bool.and_self, Bool.or_true]

@[simp]
theorem isKeepable_text (room : Nat) (s : String) : (text s).isKeepable room = true :=
  rfl

theorem areKeepable_texts (room : Nat) (texts : List String)
    : areKeepable room (texts.map .text) = true := by
  induction texts with
  | nil => rfl
  | cons text rest ih =>
      rw [List.map_cons, areKeepable, ih]
      rfl

end Json

-----------------------------------------------------------------------------------------
-- Settings of fetching
-----------------------------------------------------------------------------------------

namespace Fetch

/-- Levels of trust by their names. -/
theorem TrustLevel.isForm : IsForm toJson (ofJson? Json.convention) fun _ => True where
  plain level := .text _
  back level _ := by cases level <;> simp [ofJson?, toJson, text, Json.text, Json.choice?]
  held _ _ _ := trivial

namespace MidfetchRule

/-- A rule whose length, if it has one, fits into sixty-four bits. -/
def IsHeld : MidfetchRule → Prop
  | accept | rejectTypes _ => True
  | rejectOverLength most => most < Nat.pow 2 64

/-- What is written for a rule can be kept until its name is known, unless it is nested too deep: it
is an object in which a list may stand.
-/
theorem keeps_toJson {rule : MidfetchRule} (held : rule.IsHeld) {level : Nat}
    (shallow : level + 2 ≤ Json.depthLimit)
    : Json.convention.keeps level rule.toJson = true := by
  obtain ⟨room, room_eq⟩ : ∃ room, Json.depthLimit - level = room + 2 :=
    Nat.exists_eq_add_of_le' (by omega)
  change Json.isKeepable (Json.depthLimit - level) rule.toJson = true
  rw [room_eq]
  cases rule with
  | accept => simp [toJson, Json.ofMembers, Json.isKeepable, Json.areMembersKeepable]
  | rejectTypes starts =>
      simp [toJson, Json.ofMembers, Json.isKeepable, Json.areMembersKeepable,
        Json.areKeepable_texts]
  | rejectOverLength most =>
      simp [toJson, Json.ofMembers, Json.isKeepable, Json.areMembersKeepable,
        Json.isKeepable_nat held]

/-- A rule of which the name is known, read from the rest. -/
def ofNamed? : String × Json → Option MidfetchRule
  | (name, rest) =>
    match name with
    | "accept" => if hasNoItems rest then some accept else none
    | "reject-mime-prefix" => do
      let fields ← rest.fields? Json.convention ["prefixes"] false
      return rejectTypes (← fields.required "prefixes" (Json.listOf? Json.text?))
    | "reject-over-length" => do
      let fields ← rest.fields? Json.convention ["max_bytes"] false
      return rejectOverLength (← fields.required "max_bytes" Json.count?)
    | _ => none

/-- A value that can be kept is read as the rule that it names. -/
theorem ofJson?_eq (convention : Json.Convention) (level : Nat) (json : Json)
    : ofJson? convention level json
      = if convention.keeps level json then (splitName? json).bind ofNamed? else none := by
  unfold ofJson?
  split
  · rfl
  · rfl

/-- Rules by their names, which are looked for before anything else is read. -/
theorem isForm {level : Nat} (shallow : level + 2 ≤ Json.depthLimit)
    : IsForm toJson (ofJson? Json.convention level) IsHeld where
  plain rule := by
    cases rule with
    | accept => exact Json.isPlain_ofMembers (by simpa using .text _)
    | rejectTypes starts =>
        exact Json.isPlain_ofMembers (by simpa using ⟨.text _, isForm_text.list.plain starts⟩)
    | rejectOverLength most =>
        exact Json.isPlain_ofMembers (by simpa using ⟨.text _, .int _⟩)
  back rule held := by
    rw [ofJson?_eq, keeps_toJson held shallow, if_pos rfl]
    cases rule with
    | accept =>
        simp [toJson, Json.ofMembers, Json.text, splitName?, Json.text?, ofNamed?, hasNoItems]
    | rejectTypes starts =>
        have split
            : splitName? (toJson (.rejectTypes starts))
              = some ("reject-mime-prefix",
                  .ofMembers [("prefixes", .array (starts.map .text))]) := by
          simp [toJson, Json.ofMembers, Json.text, splitName?, Json.text?]
        rw [split, Option.bind_some]
        refine Json.read_fields (by simp) (by simp) ?_
        refine read_required isForm_text.list starts (by simp) (fun _ _ => trivial) ?_
        rfl
    | rejectOverLength most =>
        have split
            : splitName? (toJson (.rejectOverLength most))
              = some ("reject-over-length", .ofMembers [("max_bytes", .nat most)]) := by
          simp [toJson, Json.ofMembers, Json.text, splitName?, Json.text?]
        rw [split, Option.bind_some]
        refine Json.read_fields (by simp) (by simp) ?_
        refine read_required isForm_count most (by simp) held ?_
        rfl
  held json rule read := by
    rw [ofJson?_eq] at read
    split at read
    case isFalse => cases read
    obtain ⟨⟨name, rest⟩, -, read⟩ := Option.bind_eq_some_iff.mp read
    unfold ofNamed? at read
    dsimp only at read
    split at read
    · split at read
      · cases read
        trivial
      · cases read
    · simp only [Option.bind_eq_bind, Option.bind_eq_some_iff, Option.pure_def,
        Option.some.injEq] at read
      obtain ⟨fields, -, starts, -, rfl⟩ := read
      trivial
    · simp only [Option.bind_eq_bind, Option.bind_eq_some_iff, Option.pure_def,
        Option.some.injEq] at read
      obtain ⟨fields, -, most, counted, rfl⟩ := read
      exact held_of_required isForm_count counted
    · cases read

end MidfetchRule

namespace FetchConfig

/-- Settings that can be held: counts and bounds fit into sixty-four bits, and a port into sixteen.
-/
structure IsHeld (config : FetchConfig) : Prop where
  maxRate : config.maxRate < Nat.pow 2 64
  timeoutSeconds : config.timeoutSeconds < Nat.pow 2 64
  socketTimeoutMillis : config.socketTimeoutMillis < Nat.pow 2 64
  maxLength : config.maxLength < Nat.pow 2 64
  midfetchRule : config.midfetchRule.IsHeld
  proxyPort : ∀ port ∈ config.proxyPort, port < Nat.pow 2 16
  snapshotsKept : config.snapshotsKept < Nat.pow 2 64

theorem isHeld_standard : standard.IsHeld where
  maxRate := by decide
  timeoutSeconds := by decide
  socketTimeoutMillis := by decide
  maxLength := by decide
  midfetchRule := trivial
  proxyPort := by simp [standard]
  snapshotsKept := by decide

/-- The rule stands in the object of the settings. -/
theorem isForm_rule : IsForm MidfetchRule.toJson (MidfetchRule.ofJson? Json.convention 1)
    MidfetchRule.IsHeld :=
  MidfetchRule.isForm (by decide)

/-- All settings by their names. -/
theorem isForm : IsForm toJson (ofJson? Json.convention) IsHeld where
  plain config := by
    apply Json.isPlain_ofMembers
    simp only [List.forall_mem_cons, List.not_mem_nil, false_implies, implies_true, and_true]
    exact ⟨isForm_text.list.plain _, .bool _, .bool _, .bool _, .bool _, .bool _, .bool _,
      .bool _, .bool _, .bool _, .text _, .int _, .int _, .int _, .int _, .text _,
      isForm_rule.plain _,
      isForm_text.isPlain_orNull _, isForm_text.isPlain_orNull _, isForm_count.isPlain_orNull _,
      isForm_text.isPlain_orNull _, isForm_text.isPlain_orNull _, .int _⟩
  back config held := by
    refine Json.read_fields (by simp [settingNames]) (by simp [settingNames]) ?_
    refine read_orElse isForm_text.list config.acceptHeaders (by simp) (fun _ _ => trivial) ?_
    refine read_orElse isForm_bool config.acceptCompression (by simp) trivial ?_
    refine read_orElse isForm_bool config.useHttp11 (by simp) trivial ?_
    refine read_orElse isForm_bool config.sendConnectionClose (by simp) trivial ?_
    refine read_orElse isForm_bool config.ignoreCookies (by simp) trivial ?_
    refine read_orElse isForm_bool config.sendRange (by simp) trivial ?_
    refine read_orElse isForm_bool config.sendIfModifiedSince (by simp) trivial ?_
    refine read_orElse isForm_bool config.sendIfNoneMatch (by simp) trivial ?_
    refine read_orElse isForm_bool config.sendReferer (by simp) trivial ?_
    refine read_orElse isForm_bool config.digestContent (by simp) trivial ?_
    refine read_orElse DigestAlgorithm.isForm config.digestAlgorithm (by simp) trivial ?_
    refine read_orElse isForm_count config.maxRate (by simp) held.maxRate ?_
    refine read_orElse isForm_count config.timeoutSeconds (by simp) held.timeoutSeconds ?_
    refine read_orElse isForm_count config.socketTimeoutMillis (by simp) held.socketTimeoutMillis ?_
    refine read_orElse isForm_count config.maxLength (by simp) held.maxLength ?_
    refine read_orElse TrustLevel.isForm config.trustLevel (by simp) trivial ?_
    refine read_orElse isForm_rule config.midfetchRule (by simp) held.midfetchRule ?_
    refine read_optional isForm_text rfl config.userAgent (by simp) (fun _ _ => trivial) ?_
    refine read_optional isForm_text rfl config.proxyHost (by simp) (fun _ _ => trivial) ?_
    refine read_optional (isForm_nat _) rfl config.proxyPort (by simp) held.proxyPort ?_
    refine read_optional isForm_text rfl config.proxyUser (by simp) (fun _ _ => trivial) ?_
    refine read_optional isForm_text rfl config.proxyPassword (by simp) (fun _ _ => trivial) ?_
    refine read_orElse isForm_count config.snapshotsKept (by simp) held.snapshotsKept ?_
    rfl
  held json config read := by
    obtain ⟨fields, -, read⟩ := Option.bind_eq_some_iff.mp read
    iterate 11 obtain ⟨_, -, read⟩ := Option.bind_eq_some_iff.mp read
    obtain ⟨maxRate, rate, read⟩ := Option.bind_eq_some_iff.mp read
    obtain ⟨timeoutSeconds, timed, read⟩ := Option.bind_eq_some_iff.mp read
    obtain ⟨socketTimeoutMillis, answered, read⟩ := Option.bind_eq_some_iff.mp read
    obtain ⟨maxLength, limited, read⟩ := Option.bind_eq_some_iff.mp read
    obtain ⟨trustLevel, -, read⟩ := Option.bind_eq_some_iff.mp read
    obtain ⟨midfetchRule, ruled, read⟩ := Option.bind_eq_some_iff.mp read
    iterate 2 obtain ⟨_, -, read⟩ := Option.bind_eq_some_iff.mp read
    obtain ⟨proxyPort, connected, read⟩ := Option.bind_eq_some_iff.mp read
    iterate 2 obtain ⟨_, -, read⟩ := Option.bind_eq_some_iff.mp read
    obtain ⟨snapshotsKept, kept, read⟩ := Option.bind_eq_some_iff.mp read
    cases read
    exact {
      maxRate := held_of_orElse isForm_count isHeld_standard.maxRate rate
      timeoutSeconds := held_of_orElse isForm_count isHeld_standard.timeoutSeconds timed
      socketTimeoutMillis :=
        held_of_orElse isForm_count isHeld_standard.socketTimeoutMillis answered
      maxLength := held_of_orElse isForm_count isHeld_standard.maxLength limited
      midfetchRule := held_of_orElse isForm_rule isHeld_standard.midfetchRule ruled
      proxyPort := held_of_optional (isForm_nat (Nat.pow 2 16)) connected
      snapshotsKept := held_of_orElse isForm_count isHeld_standard.snapshotsKept kept
    }

end FetchConfig

end Fetch

-----------------------------------------------------------------------------------------
-- All that is exchanged
-----------------------------------------------------------------------------------------

/-- Whatever can be held of settings, rules, bounds of items, statuses, snapshots, entries of
captures and credentials is read from the text that is written for it, whatever characters its
strings have. A text from which such a value is read may be written otherwise, but what is written
for the value is read as the same value and written the same way again.
-/
theorem exchange_keepsTexts
    : KeepsTexts Fetch.FetchConfig.toJson (Fetch.FetchConfig.ofJson? Json.convention)
        Fetch.FetchConfig.IsHeld
      ∧ KeepsTexts Fetch.MidfetchRule.toJson (Fetch.MidfetchRule.ofJson? Json.convention 0)
          Fetch.MidfetchRule.IsHeld
      ∧ KeepsTexts FetchOverrides.toJson FetchOverrides.ofJson? FetchOverrides.IsHeld
      ∧ KeepsTexts FetchStatus.toJson FetchStatus.ofJson? FetchStatus.IsHeld
      ∧ KeepsTexts FetchSnapshot.toJson FetchSnapshot.ofJson? FetchSnapshot.IsHeld
      ∧ KeepsTexts CaptureEntry.toJson CaptureEntry.ofJson? CaptureEntry.IsStorable
      ∧ KeepsTexts Access.Credential.toJson (Access.Credential.ofJson? Json.convention)
          (fun _ => True)
      ∧ KeepsTexts Access.CredentialStore.toJson Access.CredentialStore.ofJson?
          (fun _ => True) :=
  ⟨Fetch.FetchConfig.isForm.keepsTexts, (Fetch.MidfetchRule.isForm (by decide)).keepsTexts,
    FetchOverrides.isForm.keepsTexts, FetchStatus.isForm.keepsTexts,
    FetchSnapshot.isForm.keepsTexts, CaptureEntry.isForm.keepsTexts,
    Access.Credential.isForm.keepsTexts, Access.CredentialStore.isForm.keepsTexts⟩

/-- A text from which a rule is read may have the rule's name behind its contents, and members that
are passed over.
-/
example
    : let text := "\x7b\"more\":[], \"max_bytes\":7, \"rule\":\"reject-over-length\"\x7d"
      let rule := Json.ofText? (Fetch.MidfetchRule.ofJson? Json.convention 0) text
      rule = some (.rejectOverLength 7)
      ∧ rule.map (·.toJson.render)
        = some "\x7b\"rule\":\"reject-over-length\",\"max_bytes\":7\x7d" := by
  decide +kernel

end WebHarvest
