import Mailroom.Toml.Number
import Mailroom.Toml.Text

/-!
# TOML documents

A document is a table whose entries are written line by line: a key with its value, or a header, in
which the lines up to the next one belong to the table that it names. A key may be a way through
tables, which come to be where they are not there yet. No entry is set twice, and no table is opened
twice.
-/

namespace Mailroom.Toml

/-- What stands under a key while a document is read: a value, a table, or several tables of one
name, the last one first. A table is implied if it came to be on the way to something else, and
dotted if that was the way to a value. -/
inductive Item where
  | value (v : Value)
  | table (implied dotted : Bool) (entries : List (String × Item))
  | tables (entries : List (List (String × Item)))

namespace Item

/-- Set the entry of a key. -/
def setEntry (key : String) (item : Item) : List (String × Item) → List (String × Item)
  | [] => [(key, item)]
  | (k, v) :: es => if k = key then (k, item) :: es else (k, v) :: setEntry key item es

/-- Change the table at the end of a way. -/
def within (dotted : Bool) (f : Item → Option Item) : List String → Item → Option Item
  | [], t => f t
  | key :: keys, .table i d es =>
    match (es.lookup key).getD (.table true dotted []) with
    | .value _ | .tables [] => none
    | .tables (last :: before) =>
      match within dotted f keys (.table false false last) with
      | some (.table _ _ last) => some (.table i d (setEntry key (.tables (last :: before)) es))
      | _ => none
    | .table implied isDotted inner =>
      if dotted && !implied then none
      else (within dotted f keys (.table implied isDotted inner)).map fun t =>
        .table i d (setEntry key t es)
  | _ :: _, _ => none

/-- Set a value in a table. The keys lead to it from there. -/
def setValue (keys : List String) (v : Value) : Item → Option Item :=
  let way := keys.dropLast
  within true (fun
    | .table i d es => do
      let key ← keys.getLast?
      if d = way.isEmpty then none
      if (es.lookup key).isSome then none
      some (.table i d (setEntry key (.value v) es))
    | _ => none) way

/-- Open a table. -/
def openTable (keys : List String) : Item → Option Item :=
  within false (fun
    | .table i d es => do
      let key ← keys.getLast?
      match es.lookup key with
      | none => some (.table i d (setEntry key (.table false false []) es))
      | some (.table true false inner) =>
        some (.table i d (setEntry key (.table false false inner) es))
      | _ => none
    | _ => none) keys.dropLast

/-- Open a table among several of one name. -/
def openAnother (keys : List String) : Item → Option Item :=
  within false (fun
    | .table i d es => do
      let key ← keys.getLast?
      match es.lookup key with
      | none => some (.table i d (setEntry key (.tables [[]]) es))
      | some (.tables ts) => some (.table i d (setEntry key (.tables ([] :: ts)) es))
      | _ => none
    | _ => none) keys.dropLast

mutual

/-- What was read, as a value. -/
def toValue : Item → Value
  | .value v => v
  | .table _ _ es => .table (entriesToValue es)
  | .tables ts => .list (tablesToValue ts).reverse

/-- Entries that were read, as values. -/
def entriesToValue : List (String × Item) → List (String × Value)
  | [] => []
  | (k, v) :: es => (k, toValue v) :: entriesToValue es

/-- Tables that were read, as values. -/
def tablesToValue : List (List (String × Item)) → List Value
  | [] => []
  | es :: ts => .table (entriesToValue es) :: tablesToValue ts

end

end Item

mutual

/-- A value. The first number bounds the work, and the second the lists and tables that may be
within each other. -/
def readValue : Nat → Nat → List Char → Option (Value × List Char)
  | 0, _, _ => none
  | n + 1, room, cs =>
    match cs with
    | '"' :: _ | '\'' :: _ => (readString cs).map fun (s, rest) => (.text s, rest)
    | '[' :: rest => if room = 0 then none else readItems n (room - 1) [] rest
    | '\x7b' :: rest =>
      if room = 0 then none else readPairs n (room - 1) true (.table false false []) rest
    | _ =>
      match past? "true" cs, past? "false" cs with
      | some rest, _ => some (.bool true, rest)
      | none, some rest => some (.bool false, rest)
      | none, none => readNumber cs

/-- The rest of a list. The items before stand in `before`, the last one first. -/
def readItems : Nat → Nat → List Value → List Char → Option (Value × List Char)
  | 0, _, _, _ => none
  | n + 1, room, before, cs =>
    match skipLines cs.length cs with
    | ']' :: rest => some (.list before.reverse, rest)
    | cs => do
      let (v, rest) ← readValue n room cs
      match skipLines rest.length rest with
      | ',' :: rest => readItems n room (v :: before) rest
      | ']' :: rest => some (.list (v :: before).reverse, rest)
      | _ => none

/-- The rest of a table within a line. -/
def readPairs : Nat → Nat → Bool → Item → List Char → Option (Value × List Char)
  | 0, _, _, _, _ => none
  | n + 1, room, isFirst, table, cs =>
    match isFirst, skipBlanks cs with
    | true, '\x7d' :: rest => some (table.toValue, rest)
    | _, cs => do
      let (keys, rest) ← readKeys (cs.length + 1) cs
      let rest ← past? "=" rest
      let (v, rest) ← readValue n room (skipBlanks rest)
      let table ← table.setValue keys v
      match skipBlanks rest with
      | ',' :: rest => readPairs n room false table rest
      | '\x7d' :: rest => some (table.toValue, rest)
      | _ => none

end

/-- How many lists and tables may be within each other. -/
def nesting : Nat := 79

/-- A line of a document: what it does to the document and to the way of the open table, and what
is behind it. -/
def readLine (document : Item) (way : List String) (cs : List Char) :
    Option (Item × List String × List Char) :=
  match cs with
  | '[' :: '[' :: rest => do
    let (keys, rest) ← readKeys (rest.length + 1) rest
    some (← document.openAnother keys, keys, ← past? "]]" rest)
  | '[' :: rest => do
    let (keys, rest) ← readKeys (rest.length + 1) rest
    some (← document.openTable keys, keys, ← past? "]" rest)
  | _ => do
    let (keys, rest) ← readKeys (cs.length + 1) cs
    let rest ← past? "=" rest
    let (v, rest) ← readValue (2 * rest.length + 2) nesting (skipBlanks rest)
    some (← document.within false (Item.setValue keys v) way, way, rest)

/-- The lines of a document. The number bounds them. -/
def readLines : Nat → Item → List String → List Char → Option Item
  | 0, _, _, _ => none
  | n + 1, document, way, cs =>
    let cs := skipLines cs.length cs
    if cs.isEmpty then some document
    else do
      let (document, way, rest) ← readLine document way cs
      match skipComment (skipBlanks rest) with
      | [] => some document
      | rest => readLines n document way (← pastLine? rest)

/-- The entries of a document, if it is one. -/
def entriesOf? (s : String) : Option (List (String × Value)) := do
  let cs := s.toList
  match (← readLines (cs.length + 1) (.table false false []) [] cs).toValue with
  | .table es => some es
  | _ => none

end Mailroom.Toml
