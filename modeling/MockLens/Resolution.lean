/-
**Resolution: the declarations a name or a key stands for.**

Names and keys are resolved through four lookups only.  The project index provides them, but
nothing here depends on how it does.

Main definitions:

* `Lookups` — the four lookups, and `Index.lookups` those of an index;
* `Lookups.resolveName` — the declarations a class name stands for;
* `Lookups.resolve`, `Lookups.resolveKey` — those a virtual type stands for, each once, and those
  the text of a key stands for;
* `Index.resolveName`, `Index.resolve`, `Index.resolveKey` — the same for an index, and
  `Index.resolveTypes` for all keys among a list of candidate types.
-/
import MockLens.CallSite
import MockLens.Index

set_option autoImplicit false

namespace MockLens

/-! ### Lookups -/

/-- The lookups by which names and keys are resolved. -/
structure Lookups where
  /-- The class of a name. -/
  classByName : String → Option Declaration
  /-- The interfaces of a name. -/
  interfacesByName : String → List Declaration
  /-- The class-likes of a fully qualified name. -/
  classLikesAt : String → List Declaration
  /-- What a signature names. -/
  bySignature : String → List Declaration

namespace Lookups

/-- A rooted name stands for every class-like of that path; any other name for the class it names
or, when there is none, for the interfaces. -/
def resolveName (lk : Lookups) (name : String) : List Declaration :=
  if Text.startsWith "\\" name then lk.classLikesAt name
  else
    match lk.classByName name with
    | some d => [d]
    | none => lk.interfacesByName name

/-- A mock stands for the methods of its builder call and for every mocked name. -/
def resolveMock (lk : Lookups) (signature className : String) : List Declaration :=
  lk.bySignature signature ++ (Text.splitNonEmpty '|' className).flatMap lk.resolveName

/-- A member of a union stands for the mock embedded in it, if it has the tag of one, and otherwise
for the name it is. -/
def resolveMember (lk : Lookups) (member : String) : List Declaration :=
  match Text.findSub Tag.mock.text member with
  | some embedded =>
    match VirtualType.parse embedded with
    | some (.mock signature className) => lk.resolveMock signature className
    | _ => []
  | none => lk.resolveName member

/-- The declarations a virtual type stands for, each at its first occurrence.  A stubbed method
stands for the class named `binder`. -/
def resolve (lk : Lookups) (binder : String) (v : VirtualType) : List Declaration :=
  List.eraseDups <|
    match v with
    | .mock signature className => lk.resolveMock signature className
    | .verification ms => ms.flatMap lk.resolveMember
    | .stub ms => ms.flatMap lk.resolveMember
    | .stubbedMethod => (lk.classByName binder).toList

/-- The declarations a key stands for; none for a text that is no key. -/
def resolveKey (lk : Lookups) (binder key : String) : List Declaration :=
  match VirtualType.parse key with
  | some v => lk.resolve binder v
  | none => []

end Lookups

/-! ### The lookups of an index -/

namespace Index

/-- The lookups of an index. -/
def lookups (ix : Index) : Lookups where
  classByName := ix.classByName
  interfacesByName := ix.interfacesByName
  classLikesAt := ix.classLikesAt
  bySignature := ix.bySignature

/-- The declarations a class name stands for. -/
def resolveName (ix : Index) (name : String) : List Declaration := ix.lookups.resolveName name

/-- The declarations a virtual type stands for, each once. -/
def resolve (ix : Index) (binder : String) (v : VirtualType) : List Declaration :=
  ix.lookups.resolve binder v

/-- The declarations a key stands for; none for a text that is no key. -/
def resolveKey (ix : Index) (binder key : String) : List Declaration :=
  ix.lookups.resolveKey binder key

/-- The declarations the keys among the candidate types stand for, each once. -/
def resolveTypes (ix : Index) (binder : String) (types : List String) : List Declaration :=
  (types.flatMap (ix.resolveKey binder)).eraseDups

end Index

end MockLens
