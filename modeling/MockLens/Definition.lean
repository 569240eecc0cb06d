/-
**Definition: where the name at a cursor is declared.**

Inside the literal of a call that constructs a mock, the targets are the class-likes it names; on
the name of a method called on a receiver with candidate types, they are the methods of that name in
the class-likes the receiver stands for.

Main definitions:

* `Location`, `Declaration.location?` — the place of a declaration's name;
* `Index.literalTargets`, `Index.methodTargets` — the declarations at an offset;
* `Index.definitions` — their places.
-/
import MockLens.Analysis
import MockLens.Resolution
import MockLens.Uri

set_option autoImplicit false

namespace MockLens

/-- A stretch of a document. -/
structure Location where
  uri : String
  range : Range
  deriving DecidableEq, Repr

/-- The place of the name of a declaration, if the file it is in is named by a URI. -/
def Declaration.location? (d : Declaration) : Option Location :=
  (Uri.normalize? d.uri).map fun uri =>
    let stop : Position := ⟨d.position.line, d.position.character + d.name.toList.length⟩
    ⟨uri, ⟨d.position, stop⟩⟩

/-- The call that constructs a mock with its literal around an offset. -/
def Analysis.mockAt (a : Analysis) (offset : Nat) : Option Call :=
  a.calls.toList.find? fun c =>
    c.literalSpan.any (fun s => s.contains offset) && c.key.bind Tag.ofKey == some .mock

/-- One of the names of a literal is a declaration's short or fully qualified name, up to ASCII
case. -/
def Declaration.isNamedIn (className : String) (d : Declaration) : Bool :=
  (Text.split '|' className).any fun name =>
    Text.sameFold d.name name || Text.sameFold d.fqn (Text.trimStart (· == '\\') name)

namespace Index

/-- The class-likes named by the literal at an offset; the methods of its builder call, which its
key stands for as well, do not count. -/
def literalTargets (ix : Index) (binder : String) (a : Analysis) (offset : Nat) :
    List Declaration :=
  match (a.mockAt offset).bind Call.key with
  | some key =>
    match VirtualType.parse key with
    | some (.mock _ className) =>
      (ix.resolveKey binder key).filter fun d => d.isClassLike && d.isNamedIn className
    | _ => []
  | none => []

/-- The methods of a name in the class-likes that candidate types stand for. -/
def methodsNamed (ix : Index) (binder : String) (types : List String) (name : String) :
    List Declaration :=
  ((ix.resolveTypes binder types).filter Declaration.isClassLike).filterMap fun owner =>
    ix.findMethod owner.fqn name

/-- The methods the call with its name at an offset may reach. -/
def methodTargets (ix : Index) (binder : String) (a : Analysis) (offset : Nat) :
    List Declaration :=
  match a.callAtName offset with
  | some call => ix.methodsNamed binder call.receiverTypes call.method
  | none => []

/-- The declarations the name at an offset refers to: those a literal names or, where it names none,
the methods a call may reach. -/
def targets (ix : Index) (binder : String) (a : Analysis) (offset : Nat) : List Declaration :=
  match ix.literalTargets binder a offset with
  | [] => ix.methodTargets binder a offset
  | found => found

/-- The places of the declarations the name at an offset refers to. -/
def definitions (ix : Index) (binder : String) (a : Analysis) (offset : Nat) : List Location :=
  (ix.targets binder a offset).filterMap Declaration.location?

end Index

end MockLens
