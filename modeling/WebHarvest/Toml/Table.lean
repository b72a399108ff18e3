import WebHarvest.Toml.Basic

/-! Building the tables of a document: every key once, and no table opened twice. -/

namespace WebHarvest.Toml

/-- The members of a table. -/
abbrev Members := List (String × Toml)

/-- The value of a key. -/
def valueOf? (key : String) (members : Members) : Option Toml :=
  (members.find? (·.1 == key)).map (·.2)

/-- Sets the value of a key, which keeps its place if it has one. -/
def setValue (key : String) (value : Toml) : Members → Members
  | [] => [(key, value)]
  | (other, old) :: rest =>
    if other == key then (key, value) :: rest else (other, old) :: setValue key value rest

/-- Changes the table at the end of a path. Tables that are missing on the way get the given origin;
of an array of tables the last element is meant. A dotted key does not pass a table with a header of
its own. -/
def alter (made : TableOrigin) (change : TableOrigin → Members → Option (TableOrigin × Members))
    : List String → TableOrigin → Members → Option (TableOrigin × Members)
  | [], origin, members => change origin members
  | key :: path, origin, members =>
    match valueOf? key members with
    | none => do
      let (below, inner) ← alter made change path made []
      return (origin, setValue key (table below inner) members)
    | some (table below inner) =>
      if made == .dotted && below == .header then none
      else do
        let (below, inner) ← alter made change path below inner
        return (origin, setValue key (table below inner) members)
    | some (tables elements) =>
      match elements.getLast? with
      | none => none
      | some last => do
        let (_, inner) ← alter made change path .header last
        return (origin, setValue key (tables (elements.dropLast ++ [inner])) members)
    | some _ => none

/-- Sets a key that has no value yet. A plain key belongs to a table that no dotted key has made, a
dotted one to a table that a dotted key has made. -/
def define? (isDotted : Bool) (key : String) (value : Toml) (origin : TableOrigin)
    (members : Members) : Option (TableOrigin × Members) :=
  if (origin == .dotted) != isDotted || (valueOf? key members).isSome then none
  else some (origin, setValue key value members)

/-- Sets a key, dotted if there is a path before it, in a table. -/
def insert? (path : List String) (key : String) (value : Toml) (origin : TableOrigin)
    (members : Members) : Option (TableOrigin × Members) :=
  alter .dotted (define? (!path.isEmpty) key value) path origin members

/-- Opens a table by a header: a new one, or one that was passed only so far. -/
def openTable? (key : String) (origin : TableOrigin) (members : Members)
    : Option (TableOrigin × Members) :=
  match valueOf? key members with
  | none => some (origin, setValue key (table .header []) members)
  | some (table .passage inner) => some (origin, setValue key (table .header inner) members)
  | some _ => none

/-- Opens a new element of an array of tables by a header. -/
def openElement? (key : String) (origin : TableOrigin) (members : Members)
    : Option (TableOrigin × Members) :=
  match valueOf? key members with
  | none => some (origin, setValue key (tables [[]]) members)
  | some (tables elements) => some (origin, setValue key (tables (elements ++ [[]])) members)
  | some _ => none

end WebHarvest.Toml
