import Mathlib.Data.List.Induction
import WebHarvest.Text.Decimal

/-! Numbers in decimal: the digits of a number, with zeros in front of them or not, are digits and
denote that number, and only zero begins with one.
-/

namespace WebHarvest.Text.Decimal

-----------------------------------------------------------------------------------------
-- Runs of digits
-----------------------------------------------------------------------------------------

/-- A text of digits only. -/
def AreDigits (cs : List Char) : Prop :=
  ∀ c ∈ cs, isAsciiDigit c = true

theorem isAsciiDigit_of_isDigit {c : Char} (digit : c.isDigit = true) : isAsciiDigit c = true := by
  simpa [isAsciiDigit, Char.isDigit, Char.le_def] using digit

theorem value_eq_ofDigitChars (cs : List Char) : value cs = Nat.ofDigitChars 10 cs 0 := by
  have same
      : (fun n c => n * 10 + (Char.toNat c - '0'.toNat))
        = fun n c => 10 * n + (Char.toNat c - '0'.toNat) := by
    funext n c
    rw [Nat.mul_comm]
  rw [value, same, Nat.ofDigitChars]

/-- What is not a digit ends a run of digits. -/
theorem takeWhile_append_of_digits {digits : List Char} (areDigits : AreDigits digits)
    {rest : List Char} (ends : ∀ c ∈ rest.head?, isAsciiDigit c = false)
    : (digits ++ rest).takeWhile isAsciiDigit = digits := by
  rw [List.takeWhile_append_of_pos areDigits]
  cases rest with
  | nil => simp
  | cons c rest => simp [ends c rfl]

/-- The number of a digit on its own. -/
def digitValue (c : Char) : Nat :=
  c.toNat - '0'.toNat

theorem value_concat (cs : List Char) (c : Char)
    : value (cs ++ [c]) = value cs * 10 + digitValue c := by
  rw [value, List.foldl_append]
  rfl

theorem digitValue_lt {c : Char} (digit : isAsciiDigit c = true) : digitValue c < 10 := by
  simp only [isAsciiDigit, Bool.and_eq_true, decide_eq_true_eq, Char.le_def] at digit
  have last : c.toNat ≤ 57 := digit.2
  have zero : '0'.toNat = 48 := rfl
  unfold digitValue
  omega

/-- A number has no more digits than it is written with, by induction from the last one. -/
theorem value_lt {cs : List Char} (areDigits : AreDigits cs) : value cs < Nat.pow 10 cs.length := by
  induction cs using List.reverseRecOn with
  | nil => exact Nat.one_pos
  | append_singleton cs c ih =>
      have fits := ih fun other member => areDigits other (List.mem_append_left _ member)
      have digit := digitValue_lt (areDigits c (by simp))
      have room : Nat.pow 10 (cs.length + 1) = Nat.pow 10 cs.length * 10 := rfl
      rw [value_concat, List.length_append, List.length_singleton, room]
      omega

-----------------------------------------------------------------------------------------
-- The digits of a number
-----------------------------------------------------------------------------------------

theorem toList_toString (n : Nat) : (toString n).toList = Nat.toDigits 10 n :=
  Nat.toList_repr

theorem areDigits_toDigits (n : Nat) : AreDigits (Nat.toDigits 10 n) :=
  fun _ member =>
    isAsciiDigit_of_isDigit (Nat.isDigit_of_mem_toDigits (by decide) (by decide) member)

theorem value_toDigits (n : Nat) : value (Nat.toDigits 10 n) = n := by
  rw [value_eq_ofDigitChars, Nat.ofDigitChars_ten_toDigits]

/-- The texts of numbers tell them apart. -/
theorem toString_inj {n m : Nat} (same : toString n = toString m) : n = m := by
  rw [← value_toDigits n, ← toList_toString, same, toList_toString, value_toDigits]

/-- A number has a first digit. -/
theorem exists_toDigits (n : Nat)
    : ∃ c rest, Nat.toDigits 10 n = c :: rest ∧ isAsciiDigit c = true := by
  obtain ⟨c, rest, digits⟩ : ∃ c rest, Nat.toDigits 10 n = c :: rest :=
    List.exists_cons_of_ne_nil Nat.toDigits_ne_nil
  exact ⟨c, rest, digits, areDigits_toDigits n c (digits ▸ List.mem_cons_self)⟩

/-- Only zero begins with a zero, by induction on the number: its first digit is that of its tenth
part, unless it has one digit only.
-/
theorem head_toDigits_ne_zero {n : Nat} (positive : 0 < n)
    : (Nat.toDigits 10 n).head? ≠ some '0' := by
  induction n using Nat.strongRecOn with
  | _ n ih =>
      by_cases single : n < 10
      · rw [Nat.toDigits_of_lt_base single]
        simpa using Nat.ne_of_gt positive
      · have tenth : 0 < n / 10 := by omega
        have first := ih (n / 10) (by omega) tenth
        rw [Nat.toDigits_of_base_le (by decide) (Nat.le_of_not_lt single)]
        obtain ⟨c, rest, digits⟩ : ∃ c rest, Nat.toDigits 10 (n / 10) = c :: rest :=
          List.exists_cons_of_ne_nil Nat.toDigits_ne_nil
        rw [digits] at first ⊢
        exact first

-----------------------------------------------------------------------------------------
-- Digits filled up with zeros
-----------------------------------------------------------------------------------------

theorem toList_padded (width n : Nat)
    : (padded width n).toList
      = List.replicate (width - (Nat.toDigits 10 n).length) '0' ++ Nat.toDigits 10 n := by
  rw [padded, String.toList_append, String.toList_ofList, toList_toString, ← toList_toString,
    String.length_toList]

theorem areDigits_padded (width n : Nat) : AreDigits (padded width n).toList := by
  rw [toList_padded]
  intro c member
  rcases List.mem_append.mp member with zero | digit
  · rw [List.eq_of_mem_replicate zero]
    rfl
  · exact areDigits_toDigits n c digit

/-- Zeros in front of a number leave it the same. -/
theorem value_padded (width n : Nat) : value (padded width n).toList = n := by
  rw [toList_padded, value_eq_ofDigitChars, Nat.ofDigitChars_append,
    Nat.ofDigitChars_replicate_zero, Nat.mul_zero, ← value_eq_ofDigitChars, value_toDigits]

/-- A number that fits into a width is filled up to just that. -/
theorem length_padded {width n : Nat} (wide : 0 < width) (fits : n < Nat.pow 10 width)
    : (padded width n).toList.length = width := by
  have short : (Nat.toDigits 10 n).length ≤ width :=
    (Nat.length_toDigits_le_iff (by decide) wide).mpr fits
  rw [toList_padded, List.length_append, List.length_replicate]
  omega

theorem padded_ne_nil (width n : Nat) : (padded width n).toList ≠ [] := by
  rw [toList_padded]
  exact List.append_ne_nil_of_right_ne_nil _ Nat.toDigits_ne_nil

end WebHarvest.Text.Decimal
