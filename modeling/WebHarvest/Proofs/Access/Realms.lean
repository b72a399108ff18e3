import WebHarvest.Proofs.Access.Challenges
import WebHarvest.Proofs.Http.Fields

/-! The realm of a challenge, as it follows from how the challenge is made up, and the challenge
that is kept of each realm: the last one of a header field that can be read.
-/

namespace WebHarvest.Access

-----------------------------------------------------------------------------------------
-- The first mark of a text
-----------------------------------------------------------------------------------------

/-- A text that announces a realm at some place. -/
def IsMarked (text : List Char) : Prop :=
  realmMark <:+: text.map Text.lowerAscii

/-- No end of the mark is also a beginning of it, so that two marks never overlap. -/
theorem drop_realmMark_ne {count : Nat} (positive : 0 < count) (short : count < realmMark.length)
    : realmMark.drop count ≠ realmMark.take (realmMark.length - count) := by
  have each
      : ∀ count < realmMark.length,
          0 < count → realmMark.drop count ≠ realmMark.take (realmMark.length - count) := by
    decide
  exact each count short positive

/-- In front of the first mark none begins that ends in it or behind it. -/
theorem not_isPrefix_append_realmMark {before : List Char} (nonempty : before ≠ [])
    (absent : ¬realmMark <:+: before) (after : List Char)
    : ¬realmMark <+: before ++ (realmMark ++ after) := by
  intro begins
  by_cases long : realmMark.length ≤ before.length
  · have inside := List.prefix_of_prefix_length_le begins (List.prefix_append _ _) long
    exact absent inside.isInfix
  · have short := Nat.lt_of_not_le long
    have whole := List.prefix_iff_eq_take.mp begins
    have overlap
        : realmMark.drop before.length
          = realmMark.take (realmMark.length - before.length) := by
      calc realmMark.drop before.length
        _ = ((before ++ (realmMark ++ after)).take realmMark.length).drop before.length :=
          congrArg (List.drop before.length) whole
        _ = (realmMark ++ after).take (realmMark.length - before.length) := by
          rw [List.drop_take, List.drop_left]
        _ = realmMark.take (realmMark.length - before.length) :=
          List.take_append_of_le_length (Nat.sub_le _ _)
    exact drop_realmMark_ne (List.length_pos_iff.mpr nonempty) short overlap

/-- Behind the first mark of a text is what stands there, by induction on what is in front of it. -/
theorem afterRealmMark?_append {before mark : List Char} (first : ¬IsMarked before)
    (isMark : mark.map Text.lowerAscii = realmMark) (after : List Char)
    : afterRealmMark? (before ++ (mark ++ after)) = some after := by
  have length : mark.length = realmMark.length := by
    rw [← isMark, List.length_map]
  induction before with
  | nil =>
      cases mark with
      | nil => cases isMark
      | cons c mark =>
          have begins : realmMark.isPrefixOf ((c :: (mark ++ after)).map Text.lowerAscii) := by
            rw [List.isPrefixOf_iff_prefix, ← List.cons_append, List.map_append, isMark]
            exact List.prefix_append _ _
          rw [List.nil_append, List.cons_append, afterRealmMark?, if_pos begins,
            ← List.cons_append, ← length, List.drop_left]
  | cons c before ih =>
      have later : ¬IsMarked before := fun marked => first (List.infix_cons marked)
      have begins
          : ¬realmMark.isPrefixOf ((c :: (before ++ (mark ++ after))).map Text.lowerAscii) := by
        rw [List.isPrefixOf_iff_prefix, ← List.cons_append, List.map_append, List.map_append,
          isMark]
        exact not_isPrefix_append_realmMark (List.cons_ne_nil _ _) first _
      rw [List.cons_append, afterRealmMark?, if_neg begins, ih later]

/-- Where something is found there is a mark in front of it, and none before that. -/
theorem exists_of_afterRealmMark? {text after : List Char}
    (found : afterRealmMark? text = some after)
    : ∃ before mark,
        text = before ++ (mark ++ after)
        ∧ mark.map Text.lowerAscii = realmMark
        ∧ ¬IsMarked before := by
  fun_induction afterRealmMark? text with
  | case1 => cases found
  | case2 c rest begins =>
      cases found
      refine ⟨[], (c :: rest).take realmMark.length, (List.take_append_drop _ _).symm, ?_, ?_⟩
      · rw [List.map_take]
        exact (List.prefix_iff_eq_take.mp (List.isPrefixOf_iff_prefix.mp begins)).symm
      · intro marked
        cases List.infix_nil.mp marked
  | case3 c rest unbegun ih =>
      obtain ⟨before, mark, rfl, isMark, first⟩ := ih found
      refine ⟨c :: before, mark, rfl, isMark, ?_⟩
      intro marked
      rcases List.infix_cons_iff.mp marked with begins | later
      · refine unbegun (List.isPrefixOf_iff_prefix.mpr (begins.trans ?_))
        rw [← List.cons_append, List.map_append]
        exact List.prefix_append _ _
      · exact first later

/-- Nothing is found just if there is no mark. -/
theorem afterRealmMark?_eq_none_iff {text : List Char}
    : afterRealmMark? text = none ↔ ¬IsMarked text := by
  fun_induction afterRealmMark? text with
  | case1 => simp [IsMarked, realmMark]
  | case2 c rest begins =>
      have marked : IsMarked (c :: rest) := (List.isPrefixOf_iff_prefix.mp begins).isInfix
      simp [marked]
  | case3 c rest unbegun ih =>
      rw [List.isPrefixOf_iff_prefix] at unbegun
      rw [ih, IsMarked, IsMarked, List.map_cons, List.infix_cons_iff, not_or]
      exact (and_iff_right unbegun).symm

-----------------------------------------------------------------------------------------
-- The realm behind it
-----------------------------------------------------------------------------------------

/-- The realm of a text, by how the text is made up. It stands behind the first mark, either up to
the closing quote, which may be missing, or up to a comma or a blank; without a mark it is empty.
-/
inductive HasRealm : List Char → List Char → Prop
  | unmarked {text} (absent : ¬IsMarked text) : HasRealm text []
  | quoted {before mark realm} (first : ¬IsMarked before)
    (isMark : mark.map Text.lowerAscii = realmMark) (unquoted : '"' ∉ realm) (after : List Char)
    : HasRealm (before ++ (mark ++ '"' :: (realm ++ '"' :: after))) realm
  | unclosed {before mark realm} (first : ¬IsMarked before)
    (isMark : mark.map Text.lowerAscii = realmMark) (unquoted : '"' ∉ realm)
    : HasRealm (before ++ (mark ++ '"' :: realm)) realm
  | bare {before mark realm after} (first : ¬IsMarked before)
    (isMark : mark.map Text.lowerAscii = realmMark) (plain : ',' ∉ realm ∧ ' ' ∉ realm)
    (unquoted : realm.head? ≠ some '"') (ends : ∀ c ∈ after.head?, c = ',' ∨ c = ' ')
    : HasRealm (before ++ (mark ++ (realm ++ after))) realm

/-- A quoted realm ends at the next quote, or with the text. -/
theorem leadingRealm_quoted {realm after : List Char} (unquoted : '"' ∉ realm)
    (ends : ∀ c ∈ after.head?, c = '"')
    : leadingRealm ('"' :: (realm ++ after)) = realm := by
  have inside : ∀ c ∈ realm, (c != '"') = true := by
    intro c member
    rw [bne_iff_ne]
    rintro rfl
    exact unquoted member
  rw [leadingRealm, List.takeWhile_append_of_pos inside]
  cases after with
  | nil => simp
  | cons c rest => simp [ends c rfl]

theorem leadingRealm_of_head {text : List Char} (unquoted : text.head? ≠ some '"')
    : leadingRealm text = text.takeWhile fun c => c != ',' && c != ' ' := by
  unfold leadingRealm
  split
  · exact absurd rfl unquoted
  · rfl

theorem leadingRealm_bare {realm after : List Char} (plain : ',' ∉ realm ∧ ' ' ∉ realm)
    (unquoted : realm.head? ≠ some '"') (ends : ∀ c ∈ after.head?, c = ',' ∨ c = ' ')
    : leadingRealm (realm ++ after) = realm := by
  have inside : ∀ c ∈ realm, (c != ',' && c != ' ') = true := by
    intro c member
    rw [Bool.and_eq_true, bne_iff_ne, bne_iff_ne]
    exact ⟨fun same => plain.1 (same ▸ member), fun same => plain.2 (same ▸ member)⟩
  have front : (realm ++ after).head? ≠ some '"' := by
    cases realm with
    | cons c rest => exact unquoted
    | nil =>
        intro quote
        rcases ends '"' quote with same | same <;> cases same
  rw [leadingRealm_of_head front, List.takeWhile_append_of_pos inside]
  cases after with
  | nil => simp
  | cons c rest => rcases ends c rfl with rfl | rfl <;> simp

/-- The realm of a text as it is found. -/
def realmIn (text : List Char) : List Char :=
  ((afterRealmMark? text).map leadingRealm).getD []

theorem realmIn_append {before mark : List Char} (first : ¬IsMarked before)
    (isMark : mark.map Text.lowerAscii = realmMark) (after : List Char)
    : realmIn (before ++ (mark ++ after)) = leadingRealm after := by
  rw [realmIn, afterRealmMark?_append first isMark]
  rfl

theorem HasRealm.realmIn_eq {text realm : List Char} (has : HasRealm text realm)
    : realmIn text = realm := by
  cases has with
  | unmarked absent =>
      rw [realmIn, afterRealmMark?_eq_none_iff.mpr absent]
      rfl
  | quoted first isMark unquoted after =>
      rw [realmIn_append first isMark, leadingRealm_quoted unquoted (by simp)]
  | @unclosed before mark realm first isMark unquoted =>
      have closed : leadingRealm ('"' :: (realm ++ [])) = realm :=
        leadingRealm_quoted unquoted (by simp)
      rw [List.append_nil] at closed
      rw [realmIn_append first isMark, closed]
  | bare first isMark plain unquoted ends =>
      rw [realmIn_append first isMark, leadingRealm_bare plain unquoted ends]

/-- A text is cut where a condition fails for the first time. -/
theorem exists_cut (condition : Char → Bool) (text : List Char)
    : ∃ front after,
        text = front ++ after
        ∧ (∀ c ∈ front, condition c = true)
        ∧ ∀ c ∈ after.head?, condition c = false := by
  refine ⟨text.takeWhile condition, text.dropWhile condition,
    List.takeWhile_append_dropWhile.symm, List.all_eq_true.mp List.all_takeWhile, ?_⟩
  intro c next
  have stops := List.head?_dropWhile_not condition text
  rwa [Option.mem_def.mp next] at stops

/-- Every text is made up in one of these ways, with the realm that is found in it. -/
theorem hasRealm_realmIn (text : List Char) : HasRealm text (realmIn text) := by
  cases found : afterRealmMark? text with
  | none =>
      have empty : realmIn text = [] := by rw [realmIn, found]; rfl
      rw [empty]
      exact .unmarked (afterRealmMark?_eq_none_iff.mp found)
  | some rest =>
      obtain ⟨before, mark, rfl, isMark, first⟩ := exists_of_afterRealmMark? found
      rw [realmIn_append first isMark]
      by_cases quote : rest.head? = some '"'
      · obtain ⟨text, rfl⟩ := List.head?_eq_some_iff.mp quote
        obtain ⟨realm, after, rfl, inside, ends⟩ := exists_cut (· != '"') text
        have unquoted : '"' ∉ realm := fun member => by simpa using inside _ member
        have ends : ∀ c ∈ after.head?, c = '"' := by simpa using ends
        rw [leadingRealm_quoted unquoted ends]
        cases after with
        | nil =>
            rw [List.append_nil]
            exact .unclosed first isMark unquoted
        | cons c after =>
            obtain rfl := ends c rfl
            exact .quoted first isMark unquoted after
      · obtain ⟨realm, after, rfl, inside, ends⟩ :=
          exists_cut (fun c => c != ',' && c != ' ') rest
        have plain : ',' ∉ realm ∧ ' ' ∉ realm :=
          ⟨fun member => by simpa using inside _ member,
            fun member => by simpa using inside _ member⟩
        have unquoted : realm.head? ≠ some '"' := by
          cases realm with
          | nil => simp
          | cons c realm => exact quote
        have ends : ∀ c ∈ after.head?, c = ',' ∨ c = ' ' := by
          intro c next
          have stops : c ≠ ',' → c = ' ' := by simpa using ends c next
          exact (Decidable.em (c = ',')).imp_right stops
        rw [leadingRealm_bare plain unquoted ends]
        exact .bare first isMark plain unquoted ends

theorem hasRealm_iff {text realm : List Char} : HasRealm text realm ↔ realmIn text = realm :=
  ⟨HasRealm.realmIn_eq, fun same => same ▸ hasRealm_realmIn text⟩

-----------------------------------------------------------------------------------------
-- The challenges of a header field
-----------------------------------------------------------------------------------------

namespace Challenges

/-- A text that may be the challenge of a realm: it can be read off a value and has that realm. -/
def ofValue? (realm : String) (value : Bytes) : Option String :=
  (Http.readable? value).filter fun challenge => realm = (realm? challenge).getD ""

theorem get?_ofHeaders (headers : Http.Headers) (name realm : String)
    : (ofHeaders headers name).get? realm
      = (headers.values name).reverse.findSome? (ofValue? realm) := by
  rw [ofHeaders, get?_ofList, ← List.map_reverse, ← List.filterMap_reverse, List.findSome?_map,
    ← List.head?_filterMap, List.filterMap_filterMap, List.head?_filterMap]
  congr 1
  funext value
  unfold ofValue?
  cases Http.readable? value with
  | none => rfl
  | some challenge => simp [Option.filter]

end Challenges

/-- A challenge stands among the values of a header field as the last readable one of its realm. -/
def IsLastOf (values : List Bytes) (realm challenge : String) : Prop :=
  ∃ before after,
    values = before ++ Text.utf8 challenge :: after
    ∧ Http.IsReadable challenge
    ∧ HasRealm challenge.toList realm.toList
    ∧ ∀ later,
        Http.IsReadable later → Text.utf8 later ∈ after → ¬HasRealm later.toList realm.toList

/-- The realm of a challenge is the one that it has by how it is made up. -/
theorem realm?_getD_eq_iff {challenge realm : String}
    : (realm? challenge).getD "" = realm ↔ HasRealm challenge.toList realm.toList := by
  have found : (realm? challenge).getD "" = String.ofList (realmIn challenge.toList) := by
    rw [realm?, realmIn]
    cases afterRealmMark? challenge.toList <;> rfl
  rw [found, hasRealm_iff]
  constructor
  · rintro rfl
    rw [String.toList_ofList]
  · intro same
    rw [same, String.ofList_toList]

/-- The realms of a header field are those of its readable values. -/
theorem mem_realmsOf_iff {headers : Http.Headers} {name realm : String}
    : realm ∈ realmsOf headers name
      ↔ ∃ challenge,
          Text.utf8 challenge ∈ headers.values name
          ∧ Http.IsReadable challenge
          ∧ HasRealm challenge.toList realm.toList := by
  simp only [realmsOf, List.mem_map, List.mem_filterMap, Http.readable?_eq_some_iff,
    realm?_getD_eq_iff]
  constructor
  · rintro ⟨challenge, ⟨value, listed, rfl, readable⟩, hasRealm⟩
    exact ⟨challenge, listed, readable, hasRealm⟩
  · rintro ⟨challenge, listed, readable, hasRealm⟩
    exact ⟨challenge, ⟨_, listed, rfl, readable⟩, hasRealm⟩

namespace Challenges

theorem ofValue?_eq_some_iff {realm challenge : String} {value : Bytes}
    : ofValue? realm value = some challenge
      ↔ value = Text.utf8 challenge
        ∧ Http.IsReadable challenge
        ∧ HasRealm challenge.toList realm.toList := by
  rw [ofValue?, Option.filter_eq_some_iff, Http.readable?_eq_some_iff, decide_eq_true_iff,
    eq_comm (a := realm), realm?_getD_eq_iff, and_assoc, eq_comm]

/-- The challenge that is told of a realm is the last one of it that can be read. -/
theorem get?_ofHeaders_eq_some_iff {headers : Http.Headers} {name realm challenge : String}
    : (ofHeaders headers name).get? realm = some challenge
      ↔ IsLastOf (headers.values name) realm challenge := by
  rw [get?_ofHeaders, List.findSome?_eq_some_iff]
  constructor
  · rintro ⟨after, value, before, parts, here, unheard⟩
    obtain ⟨rfl, readable, hasRealm⟩ := ofValue?_eq_some_iff.mp here
    refine ⟨before.reverse, after.reverse, ?_, readable, hasRealm, ?_⟩
    · rw [← List.reverse_inj, parts]
      simp
    · intro later readable member hasRealm
      have none := unheard _ (List.mem_reverse.mp member)
      rw [ofValue?_eq_some_iff.mpr ⟨rfl, readable, hasRealm⟩] at none
      cases none
  · rintro ⟨before, after, parts, readable, hasRealm, others⟩
    refine ⟨after.reverse, _, before.reverse, by simp [parts],
      ofValue?_eq_some_iff.mpr ⟨rfl, readable, hasRealm⟩, ?_⟩
    intro value member
    rw [Option.eq_none_iff_forall_ne_some]
    intro later heard
    obtain ⟨rfl, readable, hasRealm⟩ := ofValue?_eq_some_iff.mp heard
    exact others later readable (List.mem_reverse.mp member) hasRealm

/-- The challenges of a header field are kept by realm: each realm is there once, with the last of
the readable values that has it, and no other realm is. What realm a text has follows from how it
is made up, for any text. So a credential for one realm answers the challenges just if a readable
value has that realm, and one for all realms always does.
-/
theorem keepsLast_ofHeaders (headers : Http.Headers) (name : String)
    : let challenges := ofHeaders headers name
      let values := headers.values name
      (∀ realm challenge,
        challenges.get? realm = some challenge ↔ IsLastOf values realm challenge)
      ∧ (challenges.entries.map (·.1)).Nodup
      ∧ (∀ realm challenge,
          (realm, challenge) ∈ challenges.entries ↔ IsLastOf values realm challenge)
      ∧ (∀ challenge realm : String,
          (realm? challenge).getD "" = realm ↔ HasRealm challenge.toList realm.toList)
      ∧ ∀ credential : Credential,
          credential.answers challenges = true
          ↔ ∀ realm ∈ credential.realm,
              ∃ challenge,
                Text.utf8 challenge ∈ values
                ∧ Http.IsReadable challenge
                ∧ HasRealm challenge.toList realm.toList := by
  intro challenges values
  have unique : (challenges.entries.map (·.1)).Nodup := nodup_ofList _
  refine ⟨fun realm challenge => get?_ofHeaders_eq_some_iff, unique, ?_,
    fun challenge realm => realm?_getD_eq_iff, ?_⟩
  · intro realm challenge
    rw [← get?_ofHeaders_eq_some_iff]
    exact (KeyedList.value?_eq_some_iff unique).symm
  · intro credential
    simp only [challenges, values, Credential.answers_ofHeaders, Option.all_eq_true,
      List.contains_iff_mem, mem_realmsOf_iff, Option.mem_def]

end Challenges

end WebHarvest.Access
