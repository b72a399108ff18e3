import WebHarvest.Text.Decimal
import WebHarvest.Text.Hex
import WebHarvest.Url.Domain
import WebHarvest.Url.Percent

/-! Hosts of URLs: domain names, addresses of both versions of the Internet protocol, and the plain
text that a scheme of no special kind puts in a host's place. -/

namespace WebHarvest.Url

/-- A host. -/
inductive Host where
  | domain (name : String)
  | ipv4 (address : Nat)
  | ipv6 (pieces : List Nat)
  deriving DecidableEq, Repr

namespace Host

/-- One number of an address of version four, in decimal, octal after a zero, or hexadecimal after
`0x`. The outer option tells numbers from other texts. -/
def ipv4Number? (cs : List Char) : Option Nat :=
  let read (base : Nat) (digits : List Char) : Option Nat :=
    (digits.mapM fun c => (Text.hexValue? c).filter (· < base)).map
      (List.foldl (fun n d => n * base + d) 0)
  match cs with
  | [] => none
  | '0' :: 'x' :: rest | '0' :: 'X' :: rest => read 16 rest
  | '0' :: c :: rest => read 8 (c :: rest)
  | _ => read 10 cs

/-- A domain name whose last label is a number, so that it must be an address. -/
def endsInNumber (name : List Char) : Bool :=
  let labels := (Domain.splitOn '.' name).reverse
  let last := match labels with
    | [] :: next :: _ => some next
    | [[]] => none
    | last :: _ => some last
    | [] => none
  match last with
  | some last => (!last.isEmpty && last.all Text.isAsciiDigit) || (ipv4Number? last).isSome
  | none => false

/-- An address of version four. Of up to four numbers the last one fills the bytes that are left. -/
def ipv4? (name : List Char) : Option Host := do
  let labels := Domain.splitOn '.' name
  let labels := if labels.getLast? == some [] then labels.dropLast else labels
  let numbers ← labels.mapM ipv4Number?
  let last ← numbers.getLast?
  let leading := numbers.dropLast
  if leading.length ≤ 3 && leading.all (· ≤ 255) && last < Nat.pow 256 (4 - leading.length) then
    let high := leading.foldl (fun n b => n * 256 + b) 0
    some (.ipv4 (high * Nat.pow 256 (4 - leading.length) + last))
  else none

/-- Four decimal numbers below 256, without leading zeros, with points between them. -/
def dotted? (cs : List Char) : Option (List Nat) := do
  let numbers ← (Domain.splitOn '.' cs).mapM fun part =>
    (Text.Decimal.read? part).filter fun n =>
      n ≤ 255 && part.length ≤ 3 && (part.length == 1 || part.head? != some '0')
  if numbers.length == 4 then some numbers else none

/-- The pieces of an address of version six between two colons each; the last may be the dotted
form of two pieces. -/
def ipv6Pieces? : List (List Char) → Option (List Nat)
  | [] => some []
  | [part] =>
    if part.contains '.' then
      match dotted? part with
      | some [a, b, c, d] => some [a * 256 + b, c * 256 + d]
      | _ => none
    else if !part.isEmpty && part.length ≤ 4 then
      (part.mapM Text.hexValue?).map fun ds => [ds.foldl (fun n d => n * 16 + d) 0]
    else none
  | part :: next :: rest =>
    if !part.isEmpty && part.length ≤ 4 then do
      let digits ← part.mapM Text.hexValue?
      let pieces ← ipv6Pieces? (next :: rest)
      return digits.foldl (fun n d => n * 16 + d) 0 :: pieces
    else none

/-- The text before and after the first two colons in a row. -/
def splitAtGap : List Char → Option (List Char × List Char)
  | ':' :: ':' :: rest => some ([], rest)
  | c :: rest => (splitAtGap rest).map fun (before, after) => (c :: before, after)
  | [] => none

/-- The pieces of one side of an address; an empty side has none. -/
def ipv6Side? (cs : List Char) : Option (List Nat) :=
  if cs.isEmpty then some [] else ipv6Pieces? (Domain.splitOn ':' cs)

/-- An address of version six: eight pieces, or fewer with a gap of zeros marked by two colons. -/
def ipv6? (cs : List Char) : Option Host :=
  match splitAtGap cs with
  | none => do
    let pieces ← ipv6Side? cs
    if pieces.length == 8 then some (.ipv6 pieces) else none
  | some (before, after) => do
    let left ← if before.contains '.' then none else ipv6Side? before
    let right ← ipv6Side? after
    if left.length + right.length ≤ 7 then
      some (.ipv6 (left ++ List.replicate (8 - left.length - right.length) 0 ++ right))
    else none

/-- An address between brackets, if the text starts with one. -/
def bracketed? (cs : List Char) : Option Host :=
  if cs.getLast? == some ']' then ipv6? (cs.drop 1).dropLast else none

/-- The host of a special scheme. -/
def special? (cs : List Char) : Option Host :=
  if cs.head? == some '[' then bracketed? cs
  else do
    let name ← Domain.ofUtf8? (Percent.decode cs)
    if name.isEmpty then none
    else if endsInNumber name.toList then ipv4? name.toList
    else some (.domain name)

/-- Characters that the host of a scheme of no special kind may not hold. -/
def endsPlainHost (c : Char) : Bool :=
  c.toNat == 0 || c == ' ' || c == '\t' || c == '\n' || c == '\r'
    || ['#', '/', ':', '<', '>', '?', '@', '[', '\\', ']', '^', '|'].contains c

/-- The host of a scheme of no special kind. -/
def plain? (cs : List Char) : Option Host :=
  if cs.head? == some '[' then bracketed? cs
  else if cs.any endsPlainHost then none
  else some (.domain (Percent.encode Percent.isControl cs))

/-- A piece in hexadecimal without leading zeros. -/
def hexPiece (n : Nat) : List Char :=
  Nat.toDigits 16 n

/-- Where the longest run of two or more zeros starts, the first of equals, with its length. -/
def longestZeros (pieces : List Nat) : Option (Nat × Nat) :=
  let runAt (i : Nat) := ((pieces.drop i).takeWhile (· == 0)).length
  (List.range pieces.length).foldl (fun best i =>
    let length := runAt i
    if 2 ≤ length && (best.map (·.2)).getD 1 < length then some (i, length) else best) none

/-- Pieces with colons between them. -/
def colons (pieces : List Nat) : List Char :=
  List.intercalate [':'] (pieces.map hexPiece)

/-- An address of version six with its longest run of zeros left out. -/
def ipv6Text (pieces : List Nat) : String :=
  let inner := match longestZeros pieces with
    | some (start, length) =>
      colons (pieces.take start) ++ ':' :: ':' :: colons (pieces.drop (start + length))
    | none => colons pieces
  String.ofList ('[' :: inner ++ [']'])

/-- A host as it stands in a URL. -/
def text : Host → String
  | domain name => name
  | ipv4 address =>
    ".".intercalate ([16777216, 65536, 256, 1].map fun unit => toString (address / unit % 256))
  | ipv6 pieces => ipv6Text pieces

end Host

end WebHarvest.Url
