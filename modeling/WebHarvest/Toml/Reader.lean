import WebHarvest.Toml.Numbers
import WebHarvest.Toml.Strings
import WebHarvest.Toml.Table

/-! Reading a TOML document: lines with keys and values, and the headers of tables. -/

namespace WebHarvest.Toml

/-- Characters of keys without quotes. -/
def isKeyChar (c : Char) : Bool :=
  Text.isAsciiLetter c || Text.isAsciiDigit c || c == '-' || c == '_'

/-- One part of a key. -/
def readKeyPart? (cs : List Char) : Option (String × List Char) :=
  match cs with
  | '"' :: rest => (readBasic? false false rest).map fun (k, rest) => (String.ofList k, rest)
  | '\'' :: rest => (readLiteral? false rest).map fun (k, rest) => (String.ofList k, rest)
  | _ =>
    let part := cs.takeWhile isKeyChar
    if part.isEmpty then none else some (String.ofList part, cs.dropWhile isKeyChar)

/-- The parts of a key with points between them. The first argument bounds their number. -/
def readKeyParts? : Nat → List Char → Option (List String × List Char)
  | 0, _ => none
  | fuel + 1, cs => do
    let (part, rest) ← readKeyPart? (cs.dropWhile isSpace)
    match rest.dropWhile isSpace with
    | '.' :: rest =>
      let (parts, rest) ← readKeyParts? fuel rest
      return (part :: parts, rest)
    | rest => return ([part], rest)

/-- How deep tables and arrays may be nested. -/
def depthLimit : Nat := 79

/-- A key as the path to its last part, and that part. -/
def readKey? (cs : List Char) : Option (List String × String × List Char) := do
  let (parts, rest) ← readKeyParts? depthLimit cs
  let last ← parts.getLast?
  return (parts.dropLast, last, rest)

/-- The text after white space, line ends and comments. -/
def skipGaps? : Bool → List Char → Option (List Char)
  | inComment, c :: rest =>
    if inComment then
      if c == '\n' then skipGaps? false rest
      else if isContent c then skipGaps? true rest
      else none
    else if isBreak c then skipGaps? false rest
    else if c == '#' then skipGaps? true rest
    else some (c :: rest)
  | inComment, [] => if inComment then none else some []

mutual

/-- A value. The first argument bounds the number of parts, the second one the depth. -/
def readValue? : Nat → Nat → List Char → Option (Toml × List Char)
  | 0, _, _ => none
  | fuel + 1, depth, cs =>
    match cs with
    | '[' :: rest =>
      if depth == 0 then none
      else do
        let (items, rest) ← readItems? fuel (depth - 1) rest
        return (array items, rest)
    | '\x7b' :: rest =>
      if depth == 0 then none
      else do
        let (members, rest) ← match rest.dropWhile isSpace with
          | '\x7d' :: rest => some ([], rest)
          | _ => readPairs? fuel (depth - 1) [] rest
        return (inline members, rest)
    | c :: _ =>
      if c == '"' || c == '\'' then
        (readString? cs).map fun (s, rest) => (text (String.ofList s), rest)
      else
        match afterWord? "true" cs, afterWord? "false" cs with
        | some rest, _ => some (bool true, rest)
        | none, some rest => some (bool false, rest)
        | none, none => readQuantity? cs
    | [] => none

/-- The items of an array up to its closing bracket, before which a comma may stand. -/
def readItems? : Nat → Nat → List Char → Option (List Toml × List Char)
  | 0, _, _ => none
  | fuel + 1, depth, cs => do
    match ← skipGaps? false cs with
    | ']' :: rest => some ([], rest)
    | cs =>
      let (item, rest) ← readValue? fuel depth cs
      match ← skipGaps? false rest with
      | ']' :: rest => some ([item], rest)
      | ',' :: rest =>
        let (items, rest) ← readItems? fuel depth rest
        return (item :: items, rest)
      | _ => none

/-- The pairs of an inline table up to its closing brace; there is at least one. -/
def readPairs? : Nat → Nat → Members → List Char → Option (Members × List Char)
  | 0, _, _, _ => none
  | fuel + 1, depth, members, cs => do
    let (path, key, rest) ← readKey? cs
    let rest ← afterChar? '=' rest
    let (value, rest) ← readValue? fuel depth (rest.dropWhile isSpace)
    let (_, members) ← insert? path key value .header members
    match rest.dropWhile isSpace with
    | '\x7d' :: rest => some (members, rest)
    | ',' :: rest => readPairs? fuel depth members rest
    | _ => none

end

/-- The text after the end of a line, which a comment may precede. The end of the document ends its
last line. -/
def endLine? : Bool → List Char → Option (List Char)
  | inComment, c :: rest =>
    if c == '\n' then some rest
    else if inComment then (if isContent c then endLine? true rest else none)
    else if isSpace c then endLine? false rest
    else if c == '#' then endLine? true rest
    else none
  | _, [] => some []

/-- A document that is being read: the members of its root, and the path to the table that was
opened last. -/
structure Progress where
  root : Members
  current : List String

/-- A line with a header: the table or the element that it opens, and the text after it. -/
def readHeader? (progress : Progress) (cs : List Char) : Option (Progress × List Char) := do
  let isElement := cs.head? == some '['
  let (path, key, rest) ← readKey? (if isElement then cs.tail else cs)
  let rest ← afterChar? ']' rest
  let rest ← if isElement then afterChar? ']' rest else some rest
  let open? := if isElement then openElement? key else openTable? key
  let (_, root) ← alter .passage open? path .header progress.root
  let rest ← endLine? false rest
  return (⟨root, path ++ [key]⟩, rest)

/-- A line with a key and its value. -/
def readPair? (progress : Progress) (cs : List Char) : Option (Progress × List Char) := do
  let (path, key, rest) ← readKey? cs
  let rest ← afterChar? '=' rest
  let (value, rest) ← readValue? (rest.length + 1) depthLimit (rest.dropWhile isSpace)
  let rest ← endLine? false rest
  let (_, root) ←
    alter .passage (insert? path key value) progress.current .header progress.root
  return ({ progress with root }, rest)

/-- The lines of a document. The first argument bounds their number. -/
def readLines? : Nat → Progress → List Char → Option Members
  | 0, _, _ => none
  | fuel + 1, progress, cs => do
    match cs.dropWhile isSpace with
    | [] => some progress.root
    | '\n' :: rest => readLines? fuel progress rest
    | '#' :: rest => readLines? fuel progress (← endLine? true rest)
    | '[' :: rest =>
      let (progress, rest) ← readHeader? progress rest
      readLines? fuel progress rest
    | rest =>
      let (progress, rest) ← readPair? progress rest
      readLines? fuel progress rest

/-- The text with each carriage return before a line feed left out; none if there is any other one.
-/
def unifyLines? : List Char → Option (List Char)
  | '\r' :: '\n' :: rest => (unifyLines? rest).map ('\n' :: ·)
  | '\r' :: _ => none
  | c :: rest => (unifyLines? rest).map (c :: ·)
  | [] => some []

/-- The text without a byte order mark at its start. -/
def withoutMark : List Char → List Char
  | '\ufeff' :: rest => rest
  | cs => cs

/-- Reads a document. -/
def read? (text : String) : Option Toml := do
  let cs ← unifyLines? (withoutMark text.toList)
  let root ← readLines? (cs.length + 1) ⟨[], []⟩ cs
  return table .header root

end WebHarvest.Toml
