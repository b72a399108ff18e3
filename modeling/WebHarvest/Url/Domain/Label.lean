import WebHarvest.Text.Direction
import WebHarvest.Text.Joining
import WebHarvest.Text.Mark
import WebHarvest.Text.Normal
import WebHarvest.Url.Domain.Mapping
import WebHarvest.Url.Punycode

/-! Labels of domain names: the characters of a label, its form in ASCII, and the rules for both. -/

namespace WebHarvest.Url.Domain

open WebHarvest.Text

/-- A label: its characters, and the text that is looked up. -/
structure Label where
  shown : List Char
  ascii : List Char
  deriving DecidableEq, Repr

namespace Label

/-- The start of a label that stands for characters beyond ASCII. -/
def aceMark : List Char :=
  ['x', 'n', '-', '-']

/-- All characters are in ASCII. -/
def isAscii (cs : List Char) : Bool :=
  cs.all (·.toNat < 0x80)

/-- The two characters that only tell how their neighbours join. -/
def isJoiner (c : Char) : Bool :=
  c.toNat == 0x200c || c.toNat == 0x200d

/-- A joiner is in its place after the mark that takes a vowel off; one that keeps letters apart is
also in its place between letters that would join. -/
def admitsJoiner (before : List Char) (joiner : Char) (after : List Char) : Bool :=
  match before with
  | [] => false
  | previous :: _ =>
    Combining.classOf previous.toNat == Combining.viramaClass
      || (joiner.toNat == 0x200c && Joining.joins before after)

/-- Every joiner is in its place; `before` is what precedes, the nearest first. -/
def joinersFit (before : List Char) : List Char → Bool
  | [] => true
  | c :: rest => (!isJoiner c || admitsJoiner before c rest) && joinersFit (c :: before) rest

/-- A label that may be written in ASCII: something beyond ASCII, no mark in front, every joiner in
its place, and a length below a bound. -/
def isEncodable (cs : List Char) : Bool :=
  !isAscii cs && !cs.head?.any isMark && joinersFit [] cs && cs.length ≤ 1000

/-- The characters of a label are what they stand for themselves, in normal form. -/
def isFolded (cs : List Char) : Bool :=
  cs.all (fun c => image? c.toNat == some [c.toNat]) && Normal.compose cs == cs

/-- The label with the given characters, all of which stand for themselves. -/
def ofFolded? (cs : List Char) : Option Label :=
  if aceMark.isPrefixOf cs then do
    let code := cs.drop aceMark.length
    let shown ← if code.length ≤ 2000 then Punycode.decode? code else none
    if isAscii cs && isEncodable shown && isFolded shown then some ⟨shown, cs⟩ else none
  else if isAscii cs then some ⟨cs, cs⟩
  else if isEncodable cs then some ⟨cs, aceMark ++ Punycode.encode cs⟩
  else none

/-- The direction of a label's first letter may open a label of that direction. -/
def opens (direction : Direction) : Bool :=
  direction == .left || direction == .right

/-- A direction that may stand at the end of a label. -/
def closes (runsRight : Bool) (direction : Direction) : Bool :=
  direction == .europeanNumber
    || if runsRight then direction == .left
      else direction == .right || direction == .arabicNumber

/-- A direction that may stand within a label. -/
def fits (runsRight : Bool) (direction : Direction) : Bool :=
  direction == .mark || direction == .neutral || closes runsRight direction

/-- All characters of a label go with the direction of its first letter; marks at the end do not
count, and a label that runs to the left has digits of one kind only. -/
def keepsDirection (label : Label) : Bool :=
  let directions := label.shown.map Direction.ofChar
  match directions with
  | [] => true
  | first :: _ =>
    let runsRight := first == .left
    let last := (directions.reverse.dropWhile (· == .mark)).head?
    opens first && last.all (closes runsRight) && directions.all (fits runsRight)
      && !(directions.contains .europeanNumber && directions.contains .arabicNumber)

/-- Something in the label runs to the left. -/
def runsLeft (label : Label) : Bool :=
  label.shown.any fun c =>
    let direction := Direction.ofChar c
    direction == .right || direction == .arabicNumber

end Label

end WebHarvest.Url.Domain
