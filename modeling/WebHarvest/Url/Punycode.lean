import WebHarvest.Text.Ascii

/-! Labels of domain names in ASCII. The characters beyond ASCII are taken in the order of their
code points, and each is written as the number of steps from the one before it, in digits of base
thirty-six whose place values follow the sizes seen so far. -/

namespace WebHarvest.Url.Punycode

/-- The digit of a value below thirty-six: letters, then decimal digits. -/
def digit (n : Nat) : Char :=
  if n < 26 then Char.ofNat ('a'.toNat + n) else Char.ofNat ('0'.toNat + (n - 26))

/-- The value of a digit; letters count in either case. -/
def digitValue? (c : Char) : Option Nat :=
  if Text.isAsciiLetter c then some ((Text.lowerAscii c).toNat - 'a'.toNat)
  else if Text.isAsciiDigit c then some (c.toNat - '0'.toNat + 26)
  else none

/-- The least value of a digit after which the number goes on. -/
def threshold (place bias : Nat) : Nat :=
  max 1 (min 26 (place - bias))

/-- Divides a step count until it is small, and counts thirty-six for each division. -/
def shrink : Nat → Nat → Nat → Nat × Nat
  | 0, delta, places => (delta, places)
  | fuel + 1, delta, places =>
    if 455 < delta then shrink fuel (delta / 35) (places + 36) else (delta, places)

/-- The bias after a step count has been written as the `count`th one. -/
def adapt (delta count : Nat) (first : Bool) : Nat :=
  let scaled := if first then delta / 700 else delta / 2
  let (rest, places) := shrink 32 (scaled + scaled / count) 0
  places + 36 * rest / (rest + 38)

/-- A step count in digits; the first argument bounds their number. -/
def number : Nat → Nat → Nat → Nat → List Char
  | 0, _, _, n => [digit n]
  | fuel + 1, bias, place, n =>
    let t := threshold place bias
    if n < t then [digit n]
    else digit (t + (n - t) % (36 - t)) :: number fuel bias (place + 36) ((n - t) / (36 - t))

/-- What the writer keeps: the text so far, steps since the last written character, the bias and
the number of characters handled. -/
structure Progress where
  out : List Char
  delta : Nat
  bias : Nat
  handled : Nat

/-- Passes one character of the label while those with code point `code` are being written. -/
def pass (basic code : Nat) (p : Progress) (c : Char) : Progress :=
  if c.toNat < code then { p with delta := p.delta + 1 }
  else if c.toNat == code then
    { out := p.out ++ number 32 p.bias 36 p.delta
      delta := 0
      bias := adapt p.delta (p.handled + 1) (p.handled == basic)
      handled := p.handled + 1 }
  else p

/-- Writes the characters of each code point in turn, starting from the code point `next`. -/
def writeCodes (label : List Char) (basic : Nat) : List Nat → Nat → Progress → List Char
  | [], _, p => p.out
  | code :: codes, next, p =>
    let p := { p with delta := p.delta + (code - next) * (p.handled + 1) }
    let p := label.foldl (pass basic code) p
    writeCodes label basic codes (code + 1) { p with delta := p.delta + 1 }

/-- The text of a label. -/
def encode (label : List Char) : List Char :=
  let basic := label.filter (·.toNat < 0x80)
  let codes := ((label.map Char.toNat).filter (0x80 ≤ ·)).mergeSort.eraseDups
  let hyphen := if basic.isEmpty then [] else ['-']
  basic ++ hyphen ++ writeCodes label basic.length codes 0x80 ⟨[], 0, 72, basic.length⟩

/-- Step counts and place values stay below this. -/
def bound : Nat := Nat.pow 2 32

/-- Reads one step count: its value added to `sum`, and the text after it. -/
def readNumber? (bias : Nat) : Nat → Nat → Nat → List Char → Option (Nat × List Char)
  | _, _, _, [] => none
  | place, weight, sum, c :: rest => do
    let n ← digitValue? c
    let t := threshold place bias
    if bound ≤ weight || bound ≤ sum + n * weight then none
    else if n < t then some (sum + n * weight, rest)
    else readNumber? bias (place + 36) (weight * (36 - t)) (sum + n * weight) rest

/-- Reads the step counts and inserts the characters; the first argument bounds their number. -/
def readCodes? : Nat → List Char → Nat → Nat → Nat → List Char → Option (List Char)
  | 0, _, _, _, _, _ => none
  | _ + 1, label, _, _, _, [] => some label
  | fuel + 1, label, code, index, bias, cs => do
    let (sum, rest) ← readNumber? bias 36 1 index cs
    let count := label.length + 1
    let code := code + sum / count
    let place := sum % count
    if h : code.isValidChar then
      let c := Char.ofNatAux code h
      readCodes? fuel (label.take place ++ c :: label.drop place) code (place + 1)
        (adapt (sum - index) count (index == 0 && label.all (·.toNat < 0x80))) rest
    else none

/-- The label that a text stands for. A hyphen with nothing before it divides nothing. -/
def decode? (cs : List Char) : Option (List Char) :=
  let tail := (cs.reverse.takeWhile (· != '-')).reverse
  let basic := (cs.take (cs.length - tail.length)).dropLast
  let steps := if basic.isEmpty then cs else tail
  if basic.all (·.toNat < 0x80) then readCodes? (cs.length + 1) basic 0x80 0 72 steps else none

end WebHarvest.Url.Punycode
