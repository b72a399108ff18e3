import WebHarvest.Text.Utf8
import WebHarvest.Url.Domain.Label

/-! Domain names in the form that is looked up: every character replaced by what it stands for, in
normal form, labels in ASCII, and no character that would end a host. -/

namespace WebHarvest.Url.Domain

/-- Characters of ASCII that no domain name may hold. -/
def isForbidden (c : Char) : Bool :=
  c.toNat ≤ 0x20 || c.toNat == 0x7f
    || ['#', '%', '/', ':', '<', '>', '?', '@', '[', '\\', ']', '^', '|'].contains c

/-- The pieces of a text between separators. -/
def splitOn (separator : Char) : List Char → List (List Char)
  | [] => [[]]
  | c :: rest =>
    if c == separator then [] :: splitOn separator rest
    else
      match splitOn separator rest with
      | first :: others => (c :: first) :: others
      | [] => [[c]]

/-- What the characters of a name stand for, in normal form. -/
def fold? (cs : List Char) : Option (List Char) := do
  let images ← cs.mapM fun c => image? c.toNat
  let folded := images.flatten.map Char.ofNat
  return if Label.isAscii folded then folded else Text.Normal.compose folded

/-- The labels of a name. Where one of them runs to the left, all have to keep their direction. -/
def labels? (cs : List Char) : Option (List Label) := do
  let folded ← fold? cs
  let labels ← if folded.any isForbidden then none else (splitOn '.' folded).mapM Label.ofFolded?
  if labels.any Label.runsLeft && !labels.all Label.keepsDirection then none else some labels

/-- The form of a domain name that is looked up, from the bytes of its UTF-8 text. -/
def ofUtf8? (bytes : Bytes) : Option String := do
  let text ← Text.ofUtf8? bytes
  let labels ← labels? text.toList
  return String.ofList (List.intercalate ['.'] (labels.map Label.ascii))

end WebHarvest.Url.Domain
