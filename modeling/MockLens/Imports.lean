/-
**Imports: the names a file abbreviates, and what a name stands for in it.**

Main definitions:

* `Imports` — the aliases a file declares, with the paths they stand for;
* `Imports.insert`, `Imports.find?` — declaring an alias, and looking one up;
* `Imports.qualify` — the fully qualified name of a name written in the file.
-/
import MockLens.Text

set_option autoImplicit false

namespace MockLens

/-- The aliases of a file with the paths they stand for, in the order of their declaration. -/
structure Imports where
  entries : List (String × String) := []
  deriving DecidableEq, Repr

namespace Imports

/-- Replaces the path of an alias in a list of entries, or appends it. -/
def put (short path : String) : List (String × String) → List (String × String)
  | [] => [(short, path)]
  | e :: es => if e.1 == short then (short, path) :: es else e :: put short path es

/-- Declares an alias; of two declarations of one short the later counts. -/
def insert (imports : Imports) (short path : String) : Imports :=
  ⟨put short path imports.entries⟩

/-- The path of an alias: of one spelled exactly so or, failing that, of one spelled so up to ASCII
case. -/
def find? (imports : Imports) (short : String) : Option String :=
  match imports.entries.find? (fun e => e.1 == short) with
  | some e => some e.2
  | none => (imports.entries.find? (fun e => Text.sameFold e.1 short)).map Prod.snd

/-- A name as its first segment and the rest, which starts with a backslash unless it is empty. -/
def splitFirst (name : String) : String × String :=
  match Text.cutFirst '\\' name with
  | some (first, rest) => (first, "\\" ++ rest)
  | none => (name, "")

/-- The fully qualified name of a name written in namespace `scope`: a rooted name is one already,
an imported first segment is replaced by its path, and any other name is taken to be in the
namespace. -/
def qualify (imports : Imports) (scope : Option String) (name : String) : String :=
  if Text.startsWith "\\" name then name
  else
    match imports.find? (splitFirst name).1 with
    | some path => "\\" ++ path ++ (splitFirst name).2
    | none =>
      match scope with
      | some ns => "\\" ++ ns ++ "\\" ++ name
      | none => "\\" ++ name

end Imports

end MockLens
