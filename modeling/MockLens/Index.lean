/-
**The project index: the declarations of every known file.**

The index maps the URI of each file to the declarations found in it and keeps four tables beside
that map, so that a name can be looked up without walking the files: classes by short name,
interfaces by short name, class-likes by fully qualified name, and methods by the name of their
owner.  All keys are in ASCII lower case, and each entry lists its declarations in the order of the
URIs and, within one file, of the source.

Main definitions:

* `Index.Tables` — the four tables, and `Index.Tables.ofDeclarations` which fills them;
* `Index` — the files with their tables, changed by `Index.update`, `Index.extend`,
  `Index.remove`;
* `Index.classByName`, `Index.interfacesByName`, `Index.classLikesAt`, `Index.methodsOf`,
  `Index.findMethod`, `Index.bySignature` — the lookups;
* `Index.catalogue` — all classes or all interfaces in alphabetical order.
-/
import MockLens.Declaration
import Std.Data.TreeMap.Basic

set_option autoImplicit false

namespace MockLens

/-- The form of a fully qualified name under which it is looked up: one leading backslash dropped,
in lower case. -/
def pathKey (path : String) : String :=
  Text.lower ((Text.dropPrefix? "\\" path).getD path)

/-! ### Tables -/

namespace Index

/-- Declarations filed under text keys. -/
abbrev Table := Std.TreeMap String (List Declaration)

/-- The table with one more declaration at the end of the entry for `key`. -/
def Table.push (t : Table) (key : String) (d : Declaration) : Table :=
  t.alter key fun entry => some (entry.getD [] ++ [d])

/-- The declarations filed under `key`. -/
def Table.entry (t : Table) (key : String) : List Declaration := t[key]?.getD []

/-- The four tables of an index. -/
structure Tables where
  classesByName : Table := {}
  interfacesByName : Table := {}
  classLikesByPath : Table := {}
  methodsByOwner : Table := {}

/-- Files a declaration in the tables it belongs to; a method without an owner belongs to none. -/
def Tables.add (t : Tables) (d : Declaration) : Tables :=
  match d.kind with
  | .method =>
    match d.owner with
    | some owner => { t with methodsByOwner := t.methodsByOwner.push (pathKey owner) d }
    | none => t
  | .cls =>
    { t with
      classesByName := t.classesByName.push (Text.lower d.name) d
      classLikesByPath := t.classLikesByPath.push (pathKey d.fqn) d }
  | .interface =>
    { t with
      interfacesByName := t.interfacesByName.push (Text.lower d.name) d
      classLikesByPath := t.classLikesByPath.push (pathKey d.fqn) d }
  | .trait => { t with classLikesByPath := t.classLikesByPath.push (pathKey d.fqn) d }
  | .enum => { t with classLikesByPath := t.classLikesByPath.push (pathKey d.fqn) d }

/-- The tables holding the given declarations, filed in that order. -/
def Tables.ofDeclarations (ds : List Declaration) : Tables := ds.foldl Tables.add {}

end Index

/-! ### The index -/

/-- The declarations of every known file, with the tables by which they are looked up. -/
structure Index where
  files : Std.TreeMap String (List Declaration) := {}
  tables : Index.Tables := {}

namespace Index

/-- The index without files. -/
def empty : Index := {}

/-- All declarations, file by file in ascending order of their URIs. -/
def declarationsOf (files : Std.TreeMap String (List Declaration)) : List Declaration :=
  files.toList.flatMap Prod.snd

/-- The index of the given files. -/
def ofFiles (files : Std.TreeMap String (List Declaration)) : Index :=
  ⟨files, Tables.ofDeclarations (declarationsOf files)⟩

/-- Replaces the declarations of one file. -/
def update (ix : Index) (uri : String) (ds : List Declaration) : Index :=
  ofFiles (ix.files.insert uri ds)

/-- Replaces the declarations of several files; of two entries for one file the later counts. -/
def extend (ix : Index) (entries : List (String × List Declaration)) : Index :=
  ofFiles (entries.foldl (fun files entry => files.insert entry.1 entry.2) ix.files)

/-- Forgets a file. -/
def remove (ix : Index) (uri : String) : Index :=
  if ix.files.contains uri then ofFiles (ix.files.erase uri) else ix

/-- The index knows a file. -/
def contains (ix : Index) (uri : String) : Bool := ix.files.contains uri

/-- The number of known files. -/
def fileCount (ix : Index) : Nat := ix.files.size

/-! ### Lookups -/

/-- The class-likes with the given fully qualified name. -/
def classLikesAt (ix : Index) (path : String) : List Declaration :=
  ix.tables.classLikesByPath.entry (pathKey path)

/-- The class of a name: by fully qualified name if it has a backslash, else by short name. -/
def classByName (ix : Index) (name : String) : Option Declaration :=
  if Text.hasChar '\\' name then (ix.classLikesAt name).find? (fun d => d.kind == .cls)
  else (ix.tables.classesByName.entry (Text.lower name)).head?

/-- The interfaces of a name, found like a class. -/
def interfacesByName (ix : Index) (name : String) : List Declaration :=
  if Text.hasChar '\\' name then (ix.classLikesAt name).filter (fun d => d.kind == .interface)
  else ix.tables.interfacesByName.entry (Text.lower name)

/-- The methods whose owner has the given fully qualified name. -/
def methodsOf (ix : Index) (owner : String) : List Declaration :=
  ix.tables.methodsByOwner.entry (pathKey owner)

/-- The first method of an owner with the given name. -/
def findMethod (ix : Index) (owner name : String) : Option Declaration :=
  (ix.methodsOf owner).find? (fun m => Text.sameFold m.name name)

/-- What a signature names: behind `#M#C` the methods of a class, owner and method cut at the last
dot, and behind `#C` a class-like. -/
def bySignature (ix : Index) (signature : String) : List Declaration :=
  match Text.dropPrefix? "#M#C" signature with
  | some call =>
    match Text.cutLast '.' call with
    | some (owner, method) => (ix.methodsOf owner).filter (fun m => Text.sameFold m.name method)
    | none => []
  | none =>
    match Text.dropPrefix? "#C" signature with
    | some path => ix.classLikesAt path
    | none => []

/-! ### The catalogue -/

/-- Alphabetical order: by short name, then by fully qualified name. -/
def alphabetical (a b : Declaration) : Bool :=
  a.name < b.name || (a.name == b.name && (a.fqn < b.fqn || a.fqn == b.fqn))

/-- The declarations of several table entries in one alphabetical list. -/
def sortedGroups (groups : List (List Declaration)) : List Declaration :=
  groups.flatten.mergeSort alphabetical

/-- All classes, or all interfaces, in alphabetical order; the other kinds are not catalogued. -/
def catalogue (ix : Index) : DeclarationKind → List Declaration
  | .cls => sortedGroups (ix.tables.classesByName.toList.map Prod.snd)
  | .interface => sortedGroups (ix.tables.interfacesByName.toList.map Prod.snd)
  | _ => []

end Index

end MockLens
