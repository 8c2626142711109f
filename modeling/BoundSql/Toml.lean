import BoundSql.Pairs

/-!
# TOML documents

A document is a table, put together line by line. A header or a dotted key leads to a table and
makes those on its way that are missing; how a table came to be decides what may be added to it
later. Nothing is ever defined twice.
-/

namespace BoundSql

/-- How a table came to be. -/
inductive TableOrigin where
  /-- By its own header; the document itself counts as such. -/
  | header
  /-- On the way to the table of a longer header. -/
  | implied
  /-- By a dotted key. -/
  | dotted
  /-- Whole, in braces. -/
  | inline
deriving DecidableEq, Repr

/-- A TOML value. -/
inductive Toml where
  | string (s : String)
  | integer (n : Int)
  | float (x : Float)
  | boolean (b : Bool)
  | dateTime
  /-- A well-formed number that is out of range. -/
  | outOfRange
  | array (items : List Toml)
  /-- The tables of a header that may be repeated. -/
  | tables (items : List Toml)
  | table (origin : TableOrigin) (entries : List (String × Toml))

namespace Toml

/-- An empty document. -/
def empty : Toml := .table .header []

/-- The value of a key in a table. -/
def get? (key : String) : Toml → Option Toml
  | .table _ entries => Pairs.find? key entries
  | _ => none

/-- Changes the table at the end of a path. Missing tables on the way are made; of repeated tables
the last one is meant. A table in braces is closed, and one with a header of its own cannot be
reached by a dotted key. -/
def changeAt (byKey : Bool) (change : Toml → Option Toml) : List String → Toml → Option Toml
  | [], t => change t
  | key :: path, .table origin entries =>
    let changed :=
      match Pairs.find? key entries with
      | none => changeAt byKey change path (.table (if byKey then .dotted else .implied) [])
      | some (.table o sub) =>
        if o = TableOrigin.inline || (byKey && o = TableOrigin.header) then none
        else changeAt byKey change path (.table o sub)
      | some (.tables items) => do
        let last ← changeAt byKey change path (← items.getLast?)
        return .tables (items.dropLast ++ [last])
      | some _ => none
    changed.map fun t => .table origin (Pairs.put key t entries)
  | _ :: _, _ => none

/-- Adds a new key to a table. A dotted key adds only to tables that dotted keys made. -/
def addNew (byKey : Bool) (key : String) (value : Toml) : Toml → Option Toml
  | .table origin entries =>
    if (byKey && origin ≠ .dotted) || (Pairs.find? key entries).isSome then none
    else some (.table origin (Pairs.put key value entries))
  | _ => none

/-- Adds the value of a dotted key below a table. -/
def addEntry (path : List String) (key : String) (value : Toml) (t : Toml) : Option Toml :=
  changeAt true (addNew (!path.isEmpty) key value) path t

/-- Defines a table by its header. -/
def defineTable (key : String) : Toml → Option Toml
  | .table origin entries =>
    match Pairs.find? key entries with
    | none => some (.table origin (Pairs.put key (.table .header []) entries))
    | some (.table .implied sub) =>
      some (.table origin (Pairs.put key (.table .header sub) entries))
    | some _ => none
  | _ => none

/-- Defines one more of the tables of a repeated header. -/
def defineRepeated (key : String) : Toml → Option Toml
  | .table origin entries =>
    match Pairs.find? key entries with
    | none => some (.table origin (Pairs.put key (.tables [empty]) entries))
    | some (.tables items) =>
      some (.table origin (Pairs.put key (.tables (items ++ [empty])) entries))
    | some _ => none
  | _ => none

mutual

/-- Whether no number in a value is out of range. -/
def isInRange : Toml → Bool
  | .outOfRange => false
  | .array items | .tables items => itemsInRange items
  | .table _ entries => entriesInRange entries
  | _ => true

/-- Whether no number in the items of an array is out of range. -/
def itemsInRange : List Toml → Bool
  | [] => true
  | t :: rest => t.isInRange && itemsInRange rest

/-- Whether no number in the entries of a table is out of range. -/
def entriesInRange : List (String × Toml) → Bool
  | [] => true
  | (_, t) :: rest => t.isInRange && entriesInRange rest

end

/-! ## Lines -/

/-- A line of a document: the last word of a path is kept apart. -/
inductive Line where
  | header (path : List String) (key : String)
  | repeatedHeader (path : List String) (key : String)
  | entry (path : List String) (key : String) (value : Toml)

/-- A document and the path of the table that entries go to. -/
structure Document where
  root : Toml
  current : List String

/-- A document with one more line. -/
def Document.add (d : Document) : Line → Option Document
  | .header path key =>
    (changeAt false (defineTable key) path d.root).map (⟨·, path ++ [key]⟩)
  | .repeatedHeader path key =>
    (changeAt false (defineRepeated key) path d.root).map (⟨·, path ++ [key]⟩)
  | .entry path key value =>
    (changeAt false (addEntry path key value) d.current d.root).map (⟨·, d.current⟩)

/-- The document of some lines. -/
def ofLines? (lines : List Line) : Option Toml :=
  (lines.foldlM Document.add ⟨empty, []⟩).map (·.root)

end Toml

end BoundSql
