/-!
# Values of TOML documents

A TOML document is a table whose entries may be tables again.  Its parts may be written in several
places: a header names the table that the entries after it belong to, and a dotted key reaches
into a table from outside.  How a table came about decides which of the two may add to it.

Arrays that are written as one header for each element are not supported.
-/

namespace Backtracking

namespace Toml

/-- How a table came about: in braces, by its own header, by the header of a table within it, or by
a dotted key. -/
inductive TableKind where
  | inline
  | header
  | implied
  | dotted
deriving DecidableEq

/-- A value.  Floating point numbers, dates and times are kept as they were written. -/
inductive Value where
  | boolean (value : Bool)
  | integer (value : Int)
  | float (text : String)
  | dateTime (text : String)
  | string (text : String)
  | array (items : List Value)
  | table (kind : TableKind) (entries : List (String × Value))

/-- The entries of a table, in the order in which their keys were first written. -/
abbrev Entries := List (String × Value)

/-- A key with the keys of the tables that it is reached through. -/
structure Key where
  path : List String
  name : String
deriving DecidableEq

/-- Whether a table may be added to from outside, by a dotted key or by a header. -/
def TableKind.isOpen (kind : TableKind) (byDottedKey : Bool) : Bool :=
  if byDottedKey then kind == .dotted else kind != .inline

namespace Entries

/-- Adds an entry, unless there is one of that name. -/
def insert? (name : String) (value : Value) (entries : Entries) : Option Entries :=
  if (entries.lookup name).isSome then none else some (entries ++ [(name, value)])

/-- Puts a value in the place of the one that has a name. -/
def replace (name : String) (value : Value) (entries : Entries) : Entries :=
  entries.map fun entry => if entry.1 == name then (name, value) else entry

/-- Adds a table with a header of its own.  The header of a table within it may have come before. -/
def insertTable? (name : String) (entries : Entries) : Option Entries :=
  match entries.lookup name with
  | none => some (entries ++ [(name, .table .header [])])
  | some (.table .implied inner) => some (replace name (.table .header inner) entries)
  | some _ => none

/-- Changes the table at a path.  Tables that the path lacks are made. -/
def updateAt? (byDottedKey : Bool) (change : Entries → Option Entries) :
    (path : List String) → Entries → Option Entries
  | [], entries => change entries
  | name :: path, entries =>
      match entries.lookup name with
      | none => do
          let inner ← updateAt? byDottedKey change path []
          insert? name (.table (if byDottedKey then .dotted else .implied) inner) entries
      | some (.table kind inner) => do
          guard (kind.isOpen byDottedKey)
          let inner ← updateAt? byDottedKey change path inner
          return replace name (.table kind inner) entries
      | some _ => none

/-- Adds an entry under a key that may be dotted. -/
def insertAt? (key : Key) (value : Value) (entries : Entries) : Option Entries :=
  updateAt? true (insert? key.name value) key.path entries

end Entries

end Toml

end Backtracking
