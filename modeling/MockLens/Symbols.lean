/-
**Symbols: what a file declares and what it imports.**

Only what stands at the top level of a file or directly in a namespace is collected: each
class-like, followed by its methods in source order, and the imports of class-likes.

Main definitions:

* `Symbols` — the namespace, the imports and the declarations of a file;
* `Php.ImportGroup.register` — the imports of one statement;
* `Symbols.ofStatements` — the symbols of a program tree.
-/
import MockLens.Imports
import MockLens.Php.Tree

set_option autoImplicit false

namespace MockLens

/-- What a file declares and what it imports. -/
structure Symbols where
  /-- The first named namespace. -/
  scope : Option String := none
  imports : Imports := {}
  declarations : List Declaration := []
  deriving DecidableEq, Repr

/-! ### Imports -/

/-- The path of an imported name: behind the base of its group, if there is one, and without a
leading backslash. -/
def Php.ImportItem.fullPath (base : Option String) (item : Php.ImportItem) : String :=
  let own := (Text.dropPrefix? "\\" item.path).getD item.path
  match base with
  | some base => Text.trimBoth (· == '\\') base ++ "\\" ++ own
  | none => own

/-- Registers the imports of a statement, each under its alias or else under the last segment of its
path. -/
def Php.ImportGroup.register (group : Php.ImportGroup) (imports : Imports) : Imports :=
  group.items.foldl
    (fun imports item =>
      let path := item.fullPath group.base
      imports.insert (item.short.getD (shortName path)) path)
    imports

/-! ### Declarations -/

/-- A name as a segment of a namespace. -/
def declaredName (scope : Option String) (short : String) : String :=
  match scope with
  | some ns => ns ++ "\\" ++ short
  | none => short

/-- A namespace without a name is the global one. -/
def namedScope (name : Option String) : Option String := name.filter (fun n => n != "")

namespace Symbols

/-- The method a member declares in the class-like `owner`. -/
def ofMember (uri : String) (content : List Char) (owner : String) :
    Php.Member → Option Declaration
  | .method name isStatic _ _ =>
    some
      { kind := .method
        name := name.text
        fqn := owner ++ "::" ++ name.text
        owner := some owner
        isStatic := isStatic
        uri := uri
        position := Position.ofOffset content name.span.start }
  | _ => none

/-- A class-like and its methods. -/
def ofClassLike (uri : String) (content : List Char) (scope : Option String)
    (kind : DeclarationKind) (name : Php.Identifier) (members : List Php.Member) :
    List Declaration :=
  let path := declaredName scope name.text
  { kind := kind
    name := name.text
    fqn := path
    owner := none
    isStatic := false
    uri := uri
    position := Position.ofOffset content name.span.start } ::
    members.filterMap (ofMember uri content path)

mutual

/-- Adds what a statement in namespace `scope` declares. -/
def addStatement (uri : String) (content : List Char) (scope : Option String) :
    Symbols → Php.Stmt → Symbols
  | symbols, .scope name body =>
    addStatements uri content (namedScope name)
      { symbols with scope := symbols.scope.or (namedScope name) } body
  | symbols, .imports group => { symbols with imports := group.register symbols.imports }
  | symbols, .classLike kind name members =>
    { symbols with
      declarations :=
        symbols.declarations ++ ofClassLike uri content scope kind name members }
  | symbols, _ => symbols

/-- Adds what statements in namespace `scope` declare. -/
def addStatements (uri : String) (content : List Char) (scope : Option String) :
    Symbols → List Php.Stmt → Symbols
  | symbols, [] => symbols
  | symbols, s :: rest =>
    addStatements uri content scope (addStatement uri content scope symbols s) rest

end

/-- The symbols of the program tree read from `content`. -/
def ofStatements (uri : String) (content : List Char) (statements : List Php.Stmt) : Symbols :=
  addStatements uri content none {} statements

end Symbols

end MockLens
