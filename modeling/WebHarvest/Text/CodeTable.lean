import WebHarvest.Text.Ascii

/-! Tables of code points written as text. Blanks and line ends divide the text into words, and all
numbers are in hexadecimal. -/

namespace WebHarvest.Text.CodeTable

/-- The non-empty pieces of a text between the characters that divide it. -/
def pieces (divides : Char → Bool) (cs : List Char) : List (List Char) :=
  let step (c : Char) (found : List Char × List (List Char)) :=
    if !divides c then (c :: found.1, found.2)
    else ([], if found.1.isEmpty then found.2 else found.1 :: found.2)
  let (first, others) := cs.foldr step ([], [])
  if first.isEmpty then others else first :: others

/-- The words of a text. -/
def words (text : String) : List (List Char) :=
  pieces (fun c => c == ' ' || c == '\n') text.toList

/-- The number with the given digits, most significant first. -/
def number (digits : List Char) : Nat :=
  digits.foldl (fun n c => n * 16 + (hexValue? c).getD 0) 0

/-- The numbers of a word. -/
def numbers (word : List Char) : List Nat :=
  (pieces (fun c => (hexValue? c).isNone) word).map number

/-- The code points from a first one to a last one. -/
structure Span where
  first : Nat
  last : Nat
  deriving DecidableEq, Repr

/-- A code point lies within a span. -/
def Span.holds (span : Span) (n : Nat) : Bool :=
  span.first ≤ n && n ≤ span.last

/-- The spans of a text: a word has the two ends, or the only code point. -/
def spans (text : String) : List Span :=
  (words text).filterMap fun word =>
    match numbers word with
    | [n] => some ⟨n, n⟩
    | [first, last] => some ⟨first, last⟩
    | _ => none

/-- A code point lies within one of the spans. -/
def covers (table : List Span) (n : Nat) : Bool :=
  table.any (·.holds n)

/-- A span whose code points stand for those as far behind `target` as they are behind its first. -/
structure Run extends Span where
  target : Nat
  deriving DecidableEq, Repr

/-- The runs of a text: a word has the two ends and the target. -/
def runs (text : String) : List Run :=
  (words text).filterMap fun word =>
    match numbers word with
    | [first, last, target] => some { first, last, target }
    | _ => none

/-- What a code point stands for in the run that holds it, where only those count that are a
multiple of `step` behind the first. -/
def shift? (step : Nat) (table : List Run) (n : Nat) : Option Nat :=
  (table.find? fun run => run.holds n && (n - run.first) % step == 0).map fun run =>
    run.target + (n - run.first)

/-- The images of code points one by one: a word that ends in a colon names a code point, and the
words behind it have the images of that one and of those that follow it. -/
def images (text : String) : List (Nat × List Nat) :=
  let step (found : Nat × List (Nat × List Nat)) (word : List Char) :=
    if word.getLast? == some ':' then (number word.dropLast, found.2)
    else (found.1 + 1, (found.1, numbers word) :: found.2)
  ((words text).foldl step (0, [])).2.reverse

end WebHarvest.Text.CodeTable
