import WebHarvest.Text.Ascii

/-! Strings of TOML: basic ones with escapes and literal ones without, both on one line or on many.
Line ends are single line feeds here. -/

namespace WebHarvest.Toml

/-- Characters that may stand in comments and strings: no controls but the tab. -/
def isContent (c : Char) : Bool :=
  c == '\t' || (0x20 ≤ c.toNat && c.toNat != 0x7f)

/-- White space within a line. -/
def isSpace (c : Char) : Bool :=
  c == ' ' || c == '\t'

/-- White space within and between lines. -/
def isBreak (c : Char) : Bool :=
  isSpace c || c == '\n'

/-- The character of a code point, which must not be a surrogate. -/
def scalar? (code : Nat) : Option Char :=
  if code < 0xd800 || (0xe000 ≤ code && code < 0x110000) then some (Char.ofNat code) else none

/-- The character of hexadecimal digits. -/
def hexScalar? (digits : List Char) : Option Char := do
  let values ← digits.mapM Text.hexValue?
  scalar? (values.foldl (fun n d => n * 16 + d) 0)

/-- The characters that a backslash may precede, with what they stand for. -/
def simpleEscape? : Char → Option Char
  | 'b' => some '\x08'
  | 't' => some '\t'
  | 'n' => some '\n'
  | 'f' => some '\x0c'
  | 'r' => some '\r'
  | '"' => some '"'
  | '\\' => some '\\'
  | _ => none

/-- The end of a string on many lines, if three of its quotes stand here. One or two quotes may
stand right before them. -/
def closing? (quote : Char) (cs : List Char) : Option (List Char × List Char) :=
  let run := (cs.takeWhile (· == quote)).length
  if 3 ≤ run then
    let extra := min (run - 3) 2
    some (List.replicate extra quote, cs.drop (extra + 3))
  else none

/-- Puts a character before what was read. -/
def consChar (c : Char) (read : Option (List Char × List Char)) : Option (List Char × List Char) :=
  read.map fun (cs, rest) => (c :: cs, rest)

/-- Whether a backslash before this text joins lines: nothing but white space is left of the line.
-/
def joinsLines (cs : List Char) : Bool :=
  (cs.dropWhile isSpace).head? == some '\n'

/-- A basic string after its opening quotes. While lines are being joined, white space is skipped.
-/
def readBasic? (many : Bool) : Bool → List Char → Option (List Char × List Char)
  | _, [] => none
  | _, '\\' :: 'U' :: a :: b :: c :: d :: e :: f :: g :: h :: rest => do
    let char ← hexScalar? [a, b, c, d, e, f, g, h]
    consChar char (readBasic? many false rest)
  | _, '\\' :: 'u' :: a :: b :: c :: d :: rest => do
    let char ← hexScalar? [a, b, c, d]
    consChar char (readBasic? many false rest)
  | _, '\\' :: e :: rest =>
    if many && joinsLines (e :: rest) then readBasic? many true rest
    else do
      let char ← simpleEscape? e
      consChar char (readBasic? many false rest)
  | joining, c :: rest =>
    if joining && isBreak c then readBasic? many true rest
    else if c == '"' && many then
      (closing? '"' (c :: rest)).or (consChar c (readBasic? many false rest))
    else if c == '"' then some ([], rest)
    else if (isContent c && c != '\\') || (many && c == '\n') then
      consChar c (readBasic? many false rest)
    else none

/-- A literal string after its opening quotes. -/
def readLiteral? (many : Bool) : List Char → Option (List Char × List Char)
  | [] => none
  | c :: rest =>
    if c == '\'' && many then (closing? '\'' (c :: rest)).or (consChar c (readLiteral? many rest))
    else if c == '\'' then some ([], rest)
    else if isContent c || (many && c == '\n') then consChar c (readLiteral? many rest)
    else none

/-- The text after a line feed that it may start with. -/
def afterLineFeed : List Char → List Char
  | '\n' :: rest => rest
  | cs => cs

/-- A string that may be a value. A line feed right after the opening quotes does not count. -/
def readString? : List Char → Option (List Char × List Char)
  | '"' :: '"' :: '"' :: rest => readBasic? true false (afterLineFeed rest)
  | '"' :: rest => readBasic? false false rest
  | '\'' :: '\'' :: '\'' :: rest => readLiteral? true (afterLineFeed rest)
  | '\'' :: rest => readLiteral? false rest
  | _ => none

end WebHarvest.Toml
