import WebHarvest.Url.Basic

/-! Reading a text as an absolute URL. Controls and blanks at the ends are cut off, tabs and line
ends do not count, and every part is brought into the one form in which it is written. -/

namespace WebHarvest.Url

/-- Characters cut off the ends of a text. -/
def isOuterBlank (c : Char) : Bool :=
  c.toNat ≤ 0x20

/-- A text without the controls and blanks at its ends. -/
def trimOuter (cs : List Char) : List Char :=
  ((cs.dropWhile isOuterBlank).reverse.dropWhile isOuterBlank).reverse

/-- Characters that count nowhere in a URL. -/
def isIgnored (c : Char) : Bool :=
  c == '\t' || c == '\n' || c == '\r'

/-- The characters of a text that count. -/
def significant (cs : List Char) : List Char :=
  cs.filter (!isIgnored ·)

/-- The schemes whose URLs have a host and a path of segments. -/
def isSpecial (scheme : String) : Bool :=
  ["http", "https", "ws", "wss", "ftp", "file"].contains scheme

/-- A scheme in lower case and the text after its colon. -/
def readScheme? (cs : List Char) : Option (String × List Char) :=
  let isPart (c : Char) := Text.isAsciiLetter c || Text.isAsciiDigit c || ['+', '-', '.'].contains c
  let name := significant (cs.takeWhile (· != ':'))
  match cs.dropWhile (· != ':') with
  | _ :: rest =>
    if name.head?.any Text.isAsciiLetter && name.all isPart then
      some (String.ofList (name.map Text.lowerAscii), rest)
    else none
  | [] => none

/-- The slashes that divide a path; a special scheme has backslashes as well. -/
def isSlash (special : Bool) (c : Char) : Bool :=
  c == '/' || (special && c == '\\')

/-- The characters that end an authority. -/
def endsAuthority (special : Bool) (c : Char) : Bool :=
  isSlash special c || c == '?' || c == '#'

/-- A list cut in two at the last place of an element, which is dropped. -/
def splitAtLast? (mark : Char) (cs : List Char) : Option (List Char × List Char) :=
  match cs.reverse.dropWhile (· != mark) with
  | _ :: before => some (before.reverse, (cs.reverse.takeWhile (· != mark)).reverse)
  | [] => none

/-- User name and password of a URL. -/
def readUserinfo (cs : List Char) : String × Option String :=
  let name := cs.takeWhile (· != ':')
  let password := (cs.dropWhile (· != ':')).drop 1
  (Percent.encode Percent.inUserinfo name,
    if password.isEmpty then none else some (Percent.encode Percent.inUserinfo password))

/-- The host part of an authority and what follows it; colons between brackets belong to it. -/
def splitHost : Bool → List Char → List Char × List Char
  | _, [] => ([], [])
  | bracketed, c :: rest =>
    if c == ':' && !bracketed then ([], c :: rest)
    else
      let inside := if c == '[' then true else if c == ']' then false else bracketed
      let (host, after) := splitHost inside rest
      (c :: host, after)

/-- A port below 65536 after a colon, none if it is the scheme's own, and the text behind its
digits; no port at all is allowed. -/
def readPort? (scheme : String) : List Char → Option (Option Nat × List Char)
  | [] => some (none, [])
  | _ :: cs =>
    let digits := cs.takeWhile Text.isAsciiDigit
    let port := Text.Decimal.value digits
    if port < 65536 then
      some (if digits.isEmpty || defaultPort? scheme == some port then none else some port,
        cs.dropWhile Text.isAsciiDigit)
    else none

/-- User name, password, host and port, and the text behind the port with which the path starts
already. -/
structure Authority where
  username : String
  password : Option String
  host : Option Host
  port : Option Nat
  pathStart : List Char

/-- A user or password is written, where `cs` is the text of both. -/
def namesUser (cs : List Char) : Bool :=
  !(cs.isEmpty || cs == [':'])

/-- Reads an authority; nothing but the path, query and fragment may follow it, and whether any of
them does is `goesOn`. Only a scheme of no special kind may go without a host, and then without user
and port too. A backslash ends the port of such a scheme. -/
def readAuthority? (scheme : String) (cs : List Char) (goesOn : Bool) : Option Authority := do
  let parts := splitAtLast? '@' cs
  let (user, place) := parts.getD ([], cs)
  let (username, password) := readUserinfo user
  let (hostPart, portPart) := splitHost false place
  if hostPart.isEmpty then
    let isBare := parts.isSome && user.isEmpty && goesOn
    if isSpecial scheme || namesUser user || isBare || !portPart.isEmpty then none
    else some ⟨"", none, none, none, []⟩
  else
    let host ← if isSpecial scheme then Host.special? hostPart else Host.plain? hostPart
    let (port, rest) ← readPort? scheme portPart
    if rest.head?.all (· == '\\') then return ⟨username, password, some host, port, rest⟩
    else none

/-- A segment that stands for the directory itself. -/
def isSingleDot (segment : List Char) : Bool :=
  [".", "%2e"].contains (String.ofList (segment.map Text.lowerAscii))

/-- A segment that stands for the directory above. -/
def isDoubleDot (segment : List Char) : Bool :=
  ["..", ".%2e", "%2e.", "%2e%2e"].contains (String.ofList (segment.map Text.lowerAscii))

/-- A letter and a colon or bar, by which some systems name a volume. -/
def isDriveLetter : List Char → Bool
  | [letter, mark] => Text.isAsciiLetter letter && (mark == ':' || mark == '|')
  | _ => false

/-- The pieces of a path between its slashes. -/
def splitPath (special : Bool) : List Char → List (List Char)
  | [] => [[]]
  | c :: rest =>
    if isSlash special c then [] :: splitPath special rest
    else
      match splitPath special rest with
      | first :: others => (c :: first) :: others
      | [] => [[c]]

/-- A segment that is a volume or starts with one and a backslash. -/
def startsWithVolume : List Char → Bool
  | letter :: mark :: rest => isDriveLetter [letter, mark] && rest.head?.all (· == '\\')
  | _ => false

/-- Segments in reverse order without the last one; a volume stays. -/
def shorten : List String → List String
  | [] => []
  | last :: rest => if startsWithVolume last.toList then last :: rest else rest

/-- A piece cut behind the volume at its start, if ignored characters set the volume apart from
what follows. -/
def splitVolume? (piece : List Char) : Option (String × List Char) :=
  match significant piece with
  | letter :: ':' :: rest =>
    if Text.isAsciiLetter letter && !rest.isEmpty
        && ((piece.dropWhile (· != ':')).drop 1).head?.any isIgnored then
      some (String.ofList [letter, ':'], rest)
    else none
  | _ => none

/-- A path while it is read: the segments so far in reverse order, and whether the first piece was
a volume. -/
structure Trail where
  done : List String
  hasVolume : Bool

namespace Trail

/-- The segments of a file URL that start it: a volume is written with a colon. -/
def first (piece : List Char) : Trail :=
  let segment := significant piece
  if isDriveLetter segment then ⟨[String.ofList (segment.take 1 ++ [':'])], true⟩
  else
    match splitVolume? piece with
    | some (volume, rest) => ⟨[Percent.encode Percent.inPath rest, volume], false⟩
    | none => ⟨[Percent.encode Percent.inPath segment], false⟩

/-- Takes one piece of a path. A dot segment at the end leaves an empty segment behind. -/
def take (scheme : String) (trail : Trail) (piece : List Char) (isLast : Bool) : Trail :=
  let segment := significant piece
  let directory (done : List String) : Trail :=
    { trail with done := if isLast then "" :: done else done }
  if isDoubleDot segment then directory (shorten trail.done)
  else if isSingleDot segment then directory trail.done
  else if scheme == "file" && trail.done.isEmpty then first piece
  else { trail with done := Percent.encode Percent.inPath segment :: trail.done }

/-- Takes the pieces of a path in turn. -/
def follow (scheme : String) : Trail → List (List Char) → Trail
  | trail, [] => trail
  | trail, piece :: rest => follow scheme (trail.take scheme piece rest.isEmpty) rest

/-- The path's segments. A file URL has no empty ones in front. -/
def path (scheme : String) (trail : Trail) : Path :=
  let segments := trail.done.reverse
  if scheme == "file" then
    let segments := segments.dropWhile String.isEmpty
    .segments (if segments.isEmpty then [""] else segments)
  else .segments segments

end Trail

/-- The trail of a path that starts after its first slash. -/
def readTrail (scheme : String) (cs : List Char) : Trail :=
  Trail.follow scheme ⟨[], false⟩ (splitPath (isSpecial scheme) cs)

/-- What follows a slash, if the text starts with one. -/
def afterSlash? (special : Bool) (cs : List Char) : Option (List Char) :=
  match cs.dropWhile isIgnored with
  | c :: rest => if isSlash special c then some rest else none
  | [] => none

/-- The path behind an authority. A special scheme always has one. -/
def readPath (scheme : String) (cs : List Char) : Trail :=
  if isSpecial scheme || !(significant cs).isEmpty then
    readTrail scheme ((afterSlash? (isSpecial scheme) cs).getD cs)
  else ⟨[], false⟩

/-- A text cut in two before its query or fragment. -/
def cutBody (cs : List Char) : List Char × List Char :=
  let isBody (c : Char) := c != '?' && c != '#'
  (cs.takeWhile isBody, cs.dropWhile isBody)

/-- The query and the fragment of the text behind a path. -/
def readTail (scheme : String) (cs : List Char) : Option String × Option String :=
  let query := match significant (cs.takeWhile (· != '#')) with
    | _ :: text => some (Percent.encode (Percent.inQuery (isSpecial scheme)) text)
    | [] => none
  let fragment := match significant (cs.dropWhile (· != '#')) with
    | _ :: text => some (Percent.encode Percent.inFragment text)
    | [] => none
  (query, fragment)

/-- A URL of a text after two slashes, without query and fragment; whether these follow is
`hasTail`. -/
def readPlaced? (scheme : String) (cs : List Char) (hasTail : Bool) : Option Url := do
  let isEnd := endsAuthority (isSpecial scheme)
  let rest := cs.dropWhile (!isEnd ·)
  let authority ← readAuthority? scheme (significant (cs.takeWhile (!isEnd ·)))
    (hasTail || !rest.isEmpty)
  let path := (readPath scheme (authority.pathStart ++ rest)).path scheme
  return ⟨scheme, authority.username, authority.password, true, authority.host, authority.port,
    path, none, none⟩

/-- A URL without user, host or port. -/
def hostless (scheme : String) (hasAuthority : Bool) (path : Path) : Url :=
  ⟨scheme, "", none, hasAuthority, none, none, path, none, none⟩

/-- A file URL of a text after its two slashes. The local host is left out, and so is a volume in
the host's place, which belongs to the path. A volume at the start of the path stands for the
host. -/
def readFilePlaced? (cs : List Char) : Option Url :=
  let here (trail : Trail) := hostless "file" true (trail.path "file")
  let isEnd := endsAuthority true
  let name := significant (cs.takeWhile (!isEnd ·))
  let rest := cs.dropWhile (!isEnd ·)
  if isDriveLetter name then some (here (readTrail "file" cs))
  else if name.isEmpty then some (here (readPath "file" rest))
  else do
    let host ← Host.special? name
    let trail := readPath "file" rest
    if host == .domain "localhost" then return here trail
    else return { here trail with host := if trail.hasVolume then none else some host }

/-- Reads what stands between the scheme's colon and the query; whether a query or fragment follows
is `hasTail`. -/
def readBody? (scheme : String) (cs : List Char) (hasTail : Bool) : Option Url :=
  if scheme == "file" then
    match afterSlash? true cs with
    | some rest =>
      match afterSlash? true rest with
      | some rest => readFilePlaced? rest
      | none => some (hostless scheme true ((readTrail scheme rest).path scheme))
    | none => some (hostless scheme true ((readTrail scheme cs).path scheme))
  else if isSpecial scheme then
    readPlaced? scheme (cs.dropWhile fun c => isIgnored c || isSlash true c) hasTail
  else
    match afterSlash? false cs with
    | some rest =>
      match afterSlash? false rest with
      | some rest => readPlaced? scheme rest hasTail
      | none => some (hostless scheme false ((readTrail scheme rest).path scheme))
    | none =>
      some (hostless scheme false (.plain (Percent.encode Percent.isControl (significant cs))))

/-- Reads a text as an absolute URL. -/
def read? (text : String) : Option Url := do
  let (scheme, rest) ← readScheme? (trimOuter text.toList)
  let (body, tail) := cutBody rest
  let url ← readBody? scheme body !tail.isEmpty
  let (query, fragment) := readTail scheme tail
  return { url with query, fragment }

end WebHarvest.Url
