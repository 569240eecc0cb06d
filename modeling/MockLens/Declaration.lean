/-
**Declarations: the named things a project defines.**

A declaration is a class, interface, trait or enum, or a method of one of these.  Declarations are
what the index stores and what every query answers with.

Main definitions:

* `DeclarationKind` — the five kinds, with the word each is shown by;
* `Declaration` — a named declaration and the place of its name.
-/
import MockLens.Text.Position

set_option autoImplicit false

namespace MockLens

/-- What a declaration declares. -/
inductive DeclarationKind where
  | cls
  | interface
  | trait
  | enum
  | method
  deriving DecidableEq, Repr

namespace DeclarationKind

/-- Every kind but a method. -/
def isClassLike : DeclarationKind → Bool
  | method => false
  | _ => true

/-- The word a declaration of this kind is introduced by in hover texts and reports. -/
def keyword : DeclarationKind → String
  | cls => "class"
  | interface => "interface"
  | trait => "trait"
  | enum => "enum"
  | method => "function"

end DeclarationKind

/-- A named declaration.  Its `fqn` has no leading backslash; for a method it is the owner's, two
colons, and the method's name. -/
structure Declaration where
  kind : DeclarationKind
  /-- The short name as written. -/
  name : String
  fqn : String
  /-- The fully qualified name of the class-like a method belongs to. -/
  owner : Option String
  isStatic : Bool
  /-- The file the declaration is in. -/
  uri : String
  /-- The place where the name starts. -/
  position : Position
  deriving DecidableEq, Repr

namespace Declaration

/-- Any declaration but a method. -/
def isClassLike (d : Declaration) : Bool := d.kind.isClassLike

end Declaration

/-- The last segment of a name qualified with backslashes. -/
def shortName (name : String) : String := Text.afterLast '\\' name

end MockLens
