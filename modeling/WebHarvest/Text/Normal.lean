import WebHarvest.Text.Combining
import WebHarvest.Text.Normal.Composite
import WebHarvest.Text.Normal.Replaced

/-! The composed normal form of a text: characters are taken apart into letters and marks, the marks
are put in the order of their classes, and what can be written as one character is put together
again. Two texts that are read alike have one form. -/

namespace WebHarvest.Text.Normal

/-- The first of the syllables that are put together by arithmetic, and how many there are. -/
def syllables : Nat × Nat := (0xac00, 11172)

/-- The parts of a syllable: a first and a middle letter, and a last one unless there is none. -/
def syllableParts (index : Nat) : List Nat :=
  let last := index % 28
  [0x1100 + index / 588, 0x1161 + index % 588 / 28] ++ if last == 0 then [] else [0x11a7 + last]

/-- A code point taken apart. -/
def parts (n : Nat) : List Nat :=
  if syllables.1 ≤ n && n < syllables.1 + syllables.2 then syllableParts (n - syllables.1)
  else ((replaced.lookup n).orElse fun _ => composites.lookup n).getD [n]

/-- Puts a code point in front of a text in reverse order, behind the marks of higher classes. -/
def insertMark (n : Nat) : List Nat → List Nat
  | [] => [n]
  | m :: rest =>
    if Combining.classOf n != 0 && Combining.classOf n < Combining.classOf m then
      m :: insertMark n rest
    else n :: m :: rest

/-- Code points with their marks in the order of classes. -/
def sortMarks (codes : List Nat) : List Nat :=
  (codes.foldl (fun done n => insertMark n done) []).reverse

/-- The syllable made of two letters, or of a syllable without a last letter and one. -/
def syllable? (n m : Nat) : Option Nat :=
  let first := n - 0x1100
  let index := n - syllables.1
  if 0x1100 ≤ n && first < 19 && 0x1161 ≤ m && m < 0x1176 then
    some (syllables.1 + first * 588 + (m - 0x1161) * 28)
  else if syllables.1 ≤ n && index < syllables.2 && index % 28 == 0 && 0x11a8 ≤ m && m < 0x11c3 then
    some (n + (m - 0x11a7))
  else none

/-- The character made of a letter and a mark. -/
def composite? (n m : Nat) : Option Nat :=
  (syllable? n m).orElse fun _ =>
    let both := parts n ++ [m]
    (composites.find? (·.2 == both)).map (·.1)

/-- A text while it is put together: what is finished, the last letter, and the marks behind it
that it has not taken up, the last one first. -/
structure Building where
  done : List Nat
  letter : Option Nat
  marks : List Nat

namespace Building

/-- The code points so far, the last one first. -/
def codes (b : Building) : List Nat :=
  b.marks ++ b.letter.toList ++ b.done

/-- Adds a code point. The last letter takes it up if it can, unless a mark of the same or a higher
class stands between the two. -/
def add (b : Building) (n : Nat) : Building :=
  let rank := Combining.classOf n
  let isNear := b.marks.head?.all fun m => Combining.classOf m < rank
  match b.letter.bind fun letter => if isNear then composite? letter n else none with
  | some composite => { b with letter := some composite }
  | none => if rank == 0 then ⟨b.codes, some n, []⟩ else { b with marks := n :: b.marks }

end Building

/-- The composed normal form of a text. -/
def compose (cs : List Char) : List Char :=
  let sorted := sortMarks (cs.flatMap fun c => parts c.toNat)
  ((sorted.foldl Building.add ⟨[], none, []⟩).codes.reverse).map Char.ofNat

end WebHarvest.Text.Normal
