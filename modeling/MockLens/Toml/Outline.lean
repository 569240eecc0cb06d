/-
**Outlines: the tables of a document while it is read.**

A document may define its tables piece by piece, but no part of it twice.  Whether a table may still
be extended depends on how it came to be: by its own header, only as a parent of a table with a
header, or as a part of a key with dots.

Main definitions:

* `Toml.Origin`, `Toml.Outline` — how a table came to be, and what has been read;
* `Toml.change` — a change of the table at the end of a path;
* `Toml.openTable`, `Toml.openElement`, `Toml.define` — the three kinds of line;
* `Toml.Outline.toValue` — the value read.
-/
import MockLens.Toml

set_option autoImplicit false

namespace MockLens.Toml

/-- How a table came to be. -/
inductive Origin where
  /-- As the parent of a table with a header. -/
  | parent
  /-- As a part of a key with dots. -/
  | dotted
  /-- By its own header; the document itself counts as such. -/
  | header
  deriving DecidableEq, Repr

/-- What has been read of a value. -/
inductive Outline where
  | value (v : Toml)
  | table (origin : Origin) (entries : List (String × Outline))
  /-- The tables of an array that is defined by headers, the last first. -/
  | elements (tables : List (List (String × Outline)))

/-- Entries of a table. -/
abbrev Outlines := List (String × Outline)

/-- Replaces an entry, or appends it. -/
def put (name : String) (o : Outline) : Outlines → Outlines
  | [] => [(name, o)]
  | e :: es => if e.1 == name then (name, o) :: es else e :: put name o es

/-- Changes the table at the end of a path of headers or, if `dotted`, of a key with dots.  Tables
that are missing on the way are made.  A key with dots does not lead into a table with a header of
its own, and makes those on its way its own. -/
def change (dotted : Bool) (f : Origin → Outlines → Option Outlines) :
    List String → Origin → Outlines → Option Outlines
  | [], origin, entries => f origin entries
  | name :: path, _, entries =>
    match entries.lookup name with
    | none =>
      let origin := if dotted then .dotted else .parent
      (change dotted f path origin []).map fun below => put name (.table origin below) entries
    | some (.table origin below) =>
      if dotted && origin == .header then none
      else
        let origin := if dotted then .dotted else origin
        (change dotted f path origin below).map fun below =>
          put name (.table origin below) entries
    | some (.elements (last :: earlier)) =>
      (change dotted f path .header last).map fun last =>
        put name (.elements (last :: earlier)) entries
    | some _ => none

/-- Defines a key in a table.  The last table of a key with dots must be made of such keys only, and
a simple key may not be in one. -/
def defineIn (dotted : Bool) (name : String) (v : Toml) (origin : Origin) (entries : Outlines) :
    Option Outlines :=
  if dotted != (origin == .dotted) || (entries.lookup name).isSome then none
  else some (entries ++ [(name, .value v)])

/-- Opens a table by its header. -/
def openIn (name : String) (entries : Outlines) : Option Outlines :=
  match entries.lookup name with
  | none => some (put name (.table .header []) entries)
  | some (.table .parent below) => some (put name (.table .header below) entries)
  | some _ => none

/-- Opens a further table of an array by its header. -/
def openElementIn (name : String) (entries : Outlines) : Option Outlines :=
  match entries.lookup name with
  | none => some (put name (.elements [[]]) entries)
  | some (.elements tables) => some (put name (.elements ([] :: tables)) entries)
  | some _ => none

/-- The header of a table. -/
def openTable (path : List String) (name : String) (document : Outlines) : Option Outlines :=
  change false (fun _ => openIn name) path .header document

/-- The header of a table of an array. -/
def openElement (path : List String) (name : String) (document : Outlines) : Option Outlines :=
  change false (fun _ => openElementIn name) path .header document

/-- A key and its value, in the table at the end of a path of headers. -/
def define (header path : List String) (name : String) (v : Toml) (document : Outlines) :
    Option Outlines :=
  change false (change true (defineIn (!path.isEmpty) name v) path) header .header document

mutual

/-- The value read. -/
def Outline.toValue : Outline → Toml
  | .value v => v
  | .table _ entries => .table (entryValues entries)
  | .elements tables => .array (elementValues tables).reverse

/-- The values of the entries of a table. -/
def entryValues : Outlines → Table
  | [] => []
  | (name, o) :: rest => (name, o.toValue) :: entryValues rest

/-- The values of the tables of an array, the last first. -/
def elementValues : List Outlines → List Toml
  | [] => []
  | entries :: rest => .table (entryValues entries) :: elementValues rest

end

end MockLens.Toml
