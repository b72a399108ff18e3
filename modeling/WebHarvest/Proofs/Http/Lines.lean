import WebHarvest.Http.Message
import WebHarvest.Proofs.Text.Utf8

/-! Lines and the empty line behind them: what follows is found behind the first blank line, and the
lines are told from their bytes.
-/

namespace WebHarvest.Http

-----------------------------------------------------------------------------------------
-- The first blank line
-----------------------------------------------------------------------------------------

/-- The end of a line and that of an empty one. -/
def blankLine : Bytes := lineEnd ++ lineEnd

/-- A sequence of bytes cut in two behind its first blank line. -/
def splitAtBlank? : Bytes → Option (Bytes × Bytes)
  | [] => none
  | b :: rest =>
    if blankLine <+: b :: rest then some (blankLine, (b :: rest).drop blankLine.length)
    else (splitAtBlank? rest).map fun (head, body) => (b :: head, body)

/-- What is cut off ends in a blank line, and no blank line ends before it does, by induction on the
bytes.
-/
theorem splitAtBlank?_first {bytes head body : Bytes}
    (split : splitAtBlank? bytes = some (head, body))
    : head ++ body = bytes
      ∧ blankLine <:+ head
      ∧ ∀ front, front ++ blankLine <+: bytes → head.length ≤ (front ++ blankLine).length := by
  fun_induction splitAtBlank? bytes generalizing head body with
  | case1 => cases split
  | case2 b rest starts =>
      cases split
      obtain ⟨body, whole⟩ := starts
      refine ⟨?_, List.suffix_rfl, ?_⟩
      · rw [← whole, List.drop_left]
      · intro front _
        rw [List.length_append]
        exact Nat.le_add_left _ _
  | case3 b rest goesOn ih =>
      obtain ⟨⟨head, body⟩, later, same⟩ := Option.map_eq_some_iff.mp split
      cases same
      obtain ⟨whole, ends, first⟩ := ih later
      refine ⟨congrArg (b :: ·) whole, ends.trans (List.suffix_cons b head), ?_⟩
      intro front before
      cases front with
      | nil => exact absurd before goesOn
      | cons c front =>
          have shorter := first front (List.cons_prefix_cons.mp before).2
          simpa using shorter

theorem splitAtBlank?_blankLine (body : Bytes)
    : splitAtBlank? (blankLine ++ body) = some (blankLine, body) :=
  if_pos (List.prefix_append blankLine body)

/-- A byte that begins no blank line is passed. -/
theorem splitAtBlank?_cons {b : UInt8} {rest : Bytes} (goesOn : ¬blankLine <+: b :: rest)
    : splitAtBlank? (b :: rest)
      = (splitAtBlank? rest).map fun (head, body) => (b :: head, body) :=
  if_neg goesOn

/-- Bytes that begin no line end are passed, by induction on them. -/
theorem splitAtBlank?_append {bytes rest head body : Bytes} (within : 13 ∉ bytes)
    (split : splitAtBlank? rest = some (head, body))
    : splitAtBlank? (bytes ++ rest) = some (bytes ++ head, body) := by
  induction bytes with
  | nil => exact split
  | cons b bytes ih =>
      obtain ⟨here, later⟩ := not_or.mp (mt List.mem_cons.mpr within)
      have goesOn : ¬blankLine <+: b :: (bytes ++ rest) := fun starts =>
        here (List.cons_prefix_cons.mp starts).1
      rw [List.cons_append, splitAtBlank?_cons goesOn, ih later]
      rfl

/-- A line end is passed if what follows does not begin with another one. -/
theorem splitAtBlank?_lineEnd {b : UInt8} {rest head body : Bytes} (other : b ≠ 13)
    (split : splitAtBlank? (b :: rest) = some (head, body))
    : splitAtBlank? (lineEnd ++ b :: rest) = some (lineEnd ++ head, body) := by
  have atReturn : ¬blankLine <+: 13 :: 10 :: b :: rest := by
    intro starts
    have third := (List.cons_prefix_cons.mp (List.cons_prefix_cons.mp starts).2).2
    exact other (List.cons_prefix_cons.mp third).1.symm
  have atFeed : ¬blankLine <+: 10 :: b :: rest := fun starts =>
    absurd (List.cons_prefix_cons.mp starts).1 (by decide)
  rw [lineEnd, List.cons_append, List.cons_append, List.nil_append, splitAtBlank?_cons atReturn,
    splitAtBlank?_cons atFeed, split]
  rfl

-----------------------------------------------------------------------------------------
-- Lines
-----------------------------------------------------------------------------------------

/-- Some bytes without a line end. -/
def IsLine (line : Bytes) : Prop :=
  line ≠ [] ∧ 13 ∉ line

/-- Lines with an empty one behind them. -/
def framed (lines : List Bytes) : Bytes :=
  lines.flatMap (· ++ lineEnd) ++ lineEnd

theorem framed_cons (line : Bytes) (lines : List Bytes)
    : framed (line :: lines) = line ++ (lineEnd ++ framed lines) := by
  simp only [framed, List.flatMap_cons, List.append_assoc]

/-- Lines begin with something else than a line end. -/
theorem exists_framed_cons {line : Bytes} (isLine : IsLine line) (lines : List Bytes)
    : ∃ b rest, framed (line :: lines) = b :: rest ∧ b ≠ 13 := by
  obtain ⟨filled, within⟩ := isLine
  obtain ⟨b, rest, rfl⟩ := List.exists_cons_of_ne_nil filled
  refine ⟨b, rest ++ (lineEnd ++ framed lines), framed_cons _ lines, ?_⟩
  rintro rfl
  exact within List.mem_cons_self

/-- What follows some lines and an empty one begins behind the first blank line, whatever it is, by
induction on the lines.
-/
theorem splitAtBlank?_framed {first : Bytes} {lines : List Bytes} (isLine : IsLine first)
    (areLines : ∀ line ∈ lines, IsLine line) (body : Bytes)
    : splitAtBlank? (framed (first :: lines) ++ body) = some (framed (first :: lines), body) := by
  induction lines generalizing first with
  | nil =>
      rw [framed_cons, List.append_assoc]
      exact splitAtBlank?_append isLine.2 (splitAtBlank?_blankLine body)
  | cons next lines ih =>
      obtain ⟨nextIsLine, areLines⟩ := List.forall_mem_cons.mp areLines
      have split := ih nextIsLine areLines
      obtain ⟨b, rest, starts, other⟩ := exists_framed_cons nextIsLine lines
      rw [framed_cons first, starts, List.append_assoc, List.append_assoc]
      rw [starts] at split
      exact splitAtBlank?_append isLine.2 (splitAtBlank?_lineEnd other split)

/-- The first place of a mark divides a list in one way, by induction on what stands before it. -/
theorem append_mark_inj {α : Type} {mark : α} {before other after rest : List α}
    (first : mark ∉ before) (first' : mark ∉ other)
    (same : before ++ mark :: after = other ++ mark :: rest)
    : before = other ∧ after = rest := by
  induction before generalizing other with
  | nil =>
      cases other with
      | nil => exact ⟨rfl, (List.cons.inj same).2⟩
      | cons c other =>
          have here : mark = c := (List.cons.inj same).1
          exact absurd (here ▸ List.mem_cons_self) first'
  | cons b before ih =>
      cases other with
      | nil =>
          have here : b = mark := (List.cons.inj same).1
          exact absurd (here ▸ List.mem_cons_self) first
      | cons c other =>
          obtain ⟨head, tail⟩ := List.cons.inj same
          obtain ⟨befores, afters⟩ :=
            ih (fun later => first (List.mem_cons_of_mem b later))
              (fun later => first' (List.mem_cons_of_mem c later)) tail
          exact ⟨by rw [head, befores], afters⟩

/-- Lines are told from their bytes, by induction on them. -/
theorem framed_inj {lines others : List Bytes} (areLines : ∀ line ∈ lines, IsLine line)
    (areLines' : ∀ line ∈ others, IsLine line) (same : framed lines = framed others)
    : lines = others := by
  induction lines generalizing others with
  | nil =>
      cases others with
      | nil => rfl
      | cons line others =>
          obtain ⟨b, rest, starts, other⟩ :=
            exists_framed_cons (areLines' line List.mem_cons_self) others
          rw [starts] at same
          exact absurd (List.cons.inj same).1.symm other
  | cons line lines ih =>
      obtain ⟨isLine, areLines⟩ := List.forall_mem_cons.mp areLines
      cases others with
      | nil =>
          obtain ⟨b, rest, starts, other⟩ := exists_framed_cons isLine lines
          rw [starts] at same
          exact absurd (List.cons.inj same).1 other
      | cons line' others =>
          obtain ⟨isLine', areLines'⟩ := List.forall_mem_cons.mp areLines'
          rw [framed_cons, framed_cons] at same
          obtain ⟨here, after⟩ := append_mark_inj isLine.2 isLine'.2 same
          rw [here, ih areLines areLines' (List.cons.inj after).2]

end WebHarvest.Http
