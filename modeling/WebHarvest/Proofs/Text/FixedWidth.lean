import Mathlib.Data.Char
import Mathlib.Data.List.Forall2
import Mathlib.Data.List.Lex
import WebHarvest.Proofs.Text.Decimal

/-! Numbers in decimal at fixed widths. Digits of one count are ordered as the numbers that they
denote, and so are texts in which each number has a width of its own and a mark behind it.
-/

namespace WebHarvest.Text

-----------------------------------------------------------------------------------------
-- The order of texts
-----------------------------------------------------------------------------------------

/-- Of texts whose fronts are of one length, the fronts tell the order unless they are the same. -/
theorem append_lt_append_iff {front front' back back' : List Char}
    (sameLength : front.length = front'.length)
    : front ++ back < front' ++ back' ↔ front < front' ∨ front = front' ∧ back < back' := by
  induction front generalizing front' with
  | nil =>
      obtain rfl := List.length_eq_zero_iff.mp sameLength.symm
      simp
  | cons c front ih =>
      obtain ⟨c', front', rfl⟩ := List.exists_cons_of_length_eq_add_one sameLength.symm
      have fronts := ih (Nat.succ.inj sameLength)
      simp only [List.cons_append, List.cons_lt_cons_iff, fronts, List.cons.injEq]
      tauto

namespace Decimal

variable {cs cs' : List Char}

theorem digitValue_lt_of_lt {c c' : Char} (digit : isAsciiDigit c = true) (less : c < c')
    : digitValue c < digitValue c' := by
  simp only [isAsciiDigit, Bool.and_eq_true, decide_eq_true_eq, Char.le_def] at digit
  have first : 48 ≤ c.toNat := digit.1
  have less : c.toNat < c'.toNat := less
  have zero : '0'.toNat = 48 := rfl
  unfold digitValue
  omega

/-- Digits that come before others of their count denote less, by induction from the last one. -/
theorem value_lt_of_lt (areDigits : AreDigits cs) (areDigits' : AreDigits cs')
    (sameLength : cs.length = cs'.length) (less : cs < cs')
    : value cs < value cs' := by
  induction cs using List.reverseRecOn generalizing cs' with
  | nil =>
      obtain rfl := List.length_eq_zero_iff.mp sameLength.symm
      simp at less
  | append_singleton front c ih =>
      rcases List.eq_nil_or_concat' cs' with rfl | ⟨front', c', rfl⟩
      · simp at less
      · have fronts := fun c member => areDigits c (List.mem_append_left _ member)
        have fronts' := fun c member => areDigits' c (List.mem_append_left _ member)
        have last := areDigits c (by simp)
        have small := digitValue_lt last
        have sameLength : front.length = front'.length := by simpa using sameLength
        rw [value_concat, value_concat]
        rcases (append_lt_append_iff sameLength).mp less with frontLess | ⟨rfl, lastLess⟩
        · have value := ih fronts fronts' sameLength frontLess
          omega
        · have lastLess : c < c' := by simpa [List.cons_lt_cons_iff] using lastLess
          have value := digitValue_lt_of_lt last lastLess
          omega

/-- Digits of one count are ordered as their numbers. -/
theorem lt_iff_value_lt (areDigits : AreDigits cs) (areDigits' : AreDigits cs')
    (sameLength : cs.length = cs'.length)
    : cs < cs' ↔ value cs < value cs' := by
  constructor
  · exact value_lt_of_lt areDigits areDigits' sameLength
  · intro less
    rcases lt_trichotomy cs cs' with before | rfl | after
    · exact before
    · exact absurd less (lt_irrefl _)
    · exact absurd less (lt_asymm (value_lt_of_lt areDigits' areDigits sameLength.symm after))

/-- Numbers that fit into a width are ordered as their texts of that width. -/
theorem padded_lt_iff {width n m : Nat} (wide : 0 < width) (fits : n < Nat.pow 10 width)
    (fits' : m < Nat.pow 10 width)
    : (padded width n).toList < (padded width m).toList ↔ n < m := by
  have sameLength : (padded width n).toList.length = (padded width m).toList.length := by
    rw [length_padded wide fits, length_padded wide fits']
  rw [lt_iff_value_lt (areDigits_padded width n) (areDigits_padded width m) sameLength,
    value_padded, value_padded]

theorem padded_inj {width n m : Nat}
    : (padded width n).toList = (padded width m).toList ↔ n = m := by
  constructor
  · intro same
    rw [← value_padded width n, same, value_padded]
  · rintro rfl
    rfl

-----------------------------------------------------------------------------------------
-- Zeros up to a width
-----------------------------------------------------------------------------------------

/-- The digits of a number, with zeros in front of them up to a width only. -/
structure IsNumeral (width n : Nat) (cs : List Char) : Prop where
  areDigits : AreDigits cs
  denotes : value cs = n
  wide : width ≤ cs.length
  unfilled : width < cs.length → cs.head? ≠ some '0'

theorem isNumeral_padded {n : Nat} (positive : 0 < n) (width : Nat)
    : IsNumeral width n (padded width n).toList := by
  have length
      : (padded width n).toList.length
        = width - (Nat.toDigits 10 n).length + (Nat.toDigits 10 n).length := by
    rw [toList_padded, List.length_append, List.length_replicate]
  exact {
    areDigits := areDigits_padded width n
    denotes := value_padded width n
    wide := by omega
    unfilled := by
      intro more
      have noZeros : width - (Nat.toDigits 10 n).length = 0 := by omega
      rw [toList_padded, noZeros]
      exact head_toDigits_ne_zero positive
  }

-----------------------------------------------------------------------------------------
-- Many numbers in one text
-----------------------------------------------------------------------------------------

/-- A place for a number in a text: its width, and the mark that follows it. -/
structure Place where
  width : Nat
  mark : Char

/-- A number that has no more digits than its place. -/
def Place.Holds (place : Place) (n : Nat) : Prop :=
  0 < place.width ∧ n < Nat.pow 10 place.width

/-- The text of numbers, each in its place. -/
def laidOut : List Place → List Nat → List Char
  | place :: places, n :: ns => (padded place.width n).toList ++ place.mark :: laidOut places ns
  | _, _ => []

/-- How many characters places take up with their marks. -/
def room : List Place → Nat
  | [] => 0
  | place :: places => place.width + 1 + room places

/-- A text in which each number stands in its place, in as many digits as that is wide. -/
inductive IsLaidOut : List Place → List Nat → List Char → Prop
  | nil : IsLaidOut [] [] []
  | cons {place places n ns digits cs} (areDigits : AreDigits digits)
    (filled : digits.length = place.width) (denotes : value digits = n)
    (rest : IsLaidOut places ns cs)
    : IsLaidOut (place :: places) (n :: ns) (digits ++ place.mark :: cs)

variable {places : List Place} {ns ms : List Nat}

theorem isLaidOut_laidOut (hold : List.Forall₂ Place.Holds places ns)
    : IsLaidOut places ns (laidOut places ns) := by
  induction hold with
  | nil => exact .nil
  | cons holds _ ih =>
      obtain ⟨wide, fits⟩ := holds
      exact .cons (areDigits_padded _ _) (length_padded wide fits) (value_padded _ _) ih

theorem length_laidOut (hold : List.Forall₂ Place.Holds places ns)
    : (laidOut places ns).length = room places := by
  induction hold with
  | nil => rfl
  | cons holds _ ih =>
      obtain ⟨wide, fits⟩ := holds
      rw [laidOut, List.length_append, List.length_cons, length_padded wide fits, ih, room]
      omega

/-- Texts of numbers in the same places are ordered as the first numbers in which they differ, by
induction on the places.
-/
theorem laidOut_lt_iff (hold : List.Forall₂ Place.Holds places ns)
    (hold' : List.Forall₂ Place.Holds places ms)
    : laidOut places ns < laidOut places ms ↔ ns < ms := by
  induction hold generalizing ms with
  | nil =>
      cases hold'
      simp [laidOut]
  | @cons place n places ns holds _ ih =>
      cases hold' with
      | @cons _ m _ ms holds' rest' =>
          obtain ⟨wide, fits⟩ := holds
          obtain ⟨-, fits'⟩ := holds'
          have sameLength
              : (padded place.width n).toList.length = (padded place.width m).toList.length := by
            rw [length_padded wide fits, length_padded wide fits']
          rw [laidOut, laidOut, append_lt_append_iff sameLength, padded_lt_iff wide fits fits',
            padded_inj, List.cons_lt_cons_iff, List.cons_lt_cons_iff, ih rest']
          simp

end Decimal

end WebHarvest.Text
