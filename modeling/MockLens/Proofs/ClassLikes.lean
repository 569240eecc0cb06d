/-
**Class-likes: what a program declares.**

A program declares the class-likes that stand at its top level or directly in a namespace
(`MockLens/Symbols.lean`).  Here they are gathered from the tree into one list, each with the
namespace it stands in, so that whatever is said of the declarations of a file can be said of one
class-like and its members.

Main definitions:

* `Php.ClassLike` — a class-like with its namespace, and the names it declares;
* `Php.classLikesOf` — the class-likes a program declares, in the order of the source.

Main results:

* `Symbols.declarations_ofStatements` — **the declarations of a file are those of its class-likes**,
  each followed by its methods;
* `Symbols.exists_name` — every declaration is that of a name.
-/
import MockLens.Symbols

set_option autoImplicit false

namespace MockLens

namespace Php

/-! ### Class-likes -/

/-- A class-like with the namespace it stands in. -/
structure ClassLike where
  scope : Option String
  kind : DeclarationKind
  name : Identifier
  members : List Member

/-- The name of a method. -/
def Member.methodName? : Member → Option Identifier
  | .method name _ _ _ => some name
  | _ => none

namespace ClassLike

variable (c : ClassLike)

/-- The statement that declares it. -/
def stmt : Stmt := .classLike c.kind c.name c.members

/-- The fully qualified name. -/
def path : String := declaredName c.scope c.name.text

/-- The names of the methods, in the order of the source. -/
def methodNames : List Identifier := c.members.filterMap Member.methodName?

/-- The names a class-like declares: its own and those of its methods. -/
def names : List Identifier := c.name :: c.methodNames

/-- The declaration of the class-like itself. -/
def declaration (uri : String) (content : List Char) : Declaration where
  kind := c.kind
  name := c.name.text
  fqn := c.path
  owner := none
  isStatic := false
  uri := uri
  position := Position.ofOffset content c.name.span.start

/-- The declarations of its methods. -/
def methods (uri : String) (content : List Char) : List Declaration :=
  c.members.filterMap (Symbols.ofMember uri content c.path)

/-- The class-like, followed by its methods. -/
def declarations (uri : String) (content : List Char) : List Declaration :=
  c.declaration uri content :: c.methods uri content

end ClassLike

/-! ### The class-likes of a program -/

mutual

/-- The class-likes that a statement in namespace `scope` declares. -/
def classLikesWithinStmt (scope : Option String) : Stmt → List ClassLike
  | .scope name body => classLikesWithin (namedScope name) body
  | .classLike kind name members => [⟨scope, kind, name, members⟩]
  | _ => []

/-- The class-likes that statements in namespace `scope` declare. -/
def classLikesWithin (scope : Option String) : List Stmt → List ClassLike
  | [] => []
  | s :: ss => classLikesWithinStmt scope s ++ classLikesWithin scope ss

end

/-- The class-likes that a program declares. -/
def classLikesOf (program : List Stmt) : List ClassLike := classLikesWithin none program

theorem mem_classLikesWithin {scope : Option String} {c : ClassLike} {ss : List Stmt} :
    c ∈ classLikesWithin scope ss ↔ ∃ s ∈ ss, c ∈ classLikesWithinStmt scope s := by
  induction ss with
  | nil => simp [classLikesWithin]
  | cons s ss ih => simp [classLikesWithin, ih]

end Php

namespace Symbols

open Php (ClassLike Stmt classLikesOf classLikesWithin classLikesWithinStmt)

/-! ### Declarations -/

mutual

theorem declarations_addStatement (uri : String) (content : List Char) (scope : Option String)
    (s : Stmt) (symbols : Symbols) :
    (addStatement uri content scope symbols s).declarations
      = symbols.declarations
        ++ (classLikesWithinStmt scope s).flatMap (ClassLike.declarations · uri content) := by
  cases s with
  | scope name body =>
      rw [addStatement, declarations_addStatements uri content (namedScope name) body,
        classLikesWithinStmt]
  | classLike kind name members =>
      rw [addStatement, classLikesWithinStmt, List.flatMap_cons, List.flatMap_nil, List.append_nil]
      rfl
  | _ => exact (List.append_nil _).symm

theorem declarations_addStatements (uri : String) (content : List Char) (scope : Option String)
    (ss : List Stmt) (symbols : Symbols) :
    (addStatements uri content scope symbols ss).declarations
      = symbols.declarations
        ++ (classLikesWithin scope ss).flatMap (ClassLike.declarations · uri content) := by
  cases ss with
  | nil => exact (List.append_nil _).symm
  | cons s ss =>
      rw [addStatements, declarations_addStatements uri content scope ss,
        declarations_addStatement uri content scope s, classLikesWithin, List.flatMap_append,
        List.append_assoc]

end

/-- **A file declares its class-likes**, each followed by its methods, in the order of the
source. -/
theorem declarations_ofStatements (uri : String) (content : List Char) (program : List Stmt) :
    (ofStatements uri content program).declarations
      = (classLikesOf program).flatMap (ClassLike.declarations · uri content) :=
  declarations_addStatements uri content none program {}

/-- A declaration of `uri` is made for a name: it has its text, and the position of its start. -/
structure IsOfName (uri : String) (content : List Char) (name : Php.Identifier)
    (d : Declaration) : Prop where
  text : d.name = name.text
  start : d.position = Position.ofOffset content name.span.start
  file : d.uri = uri

theorem exists_name_of_mem_declarations {uri : String} {content : List Char} {c : ClassLike}
    {d : Declaration} (h : d ∈ c.declarations uri content) :
    ∃ name ∈ c.names, IsOfName uri content name d := by
  rcases List.mem_cons.1 h with rfl | h
  · exact ⟨c.name, List.mem_cons_self .., ⟨rfl, rfl, rfl⟩⟩
  · obtain ⟨member, hmember, hd⟩ := List.mem_filterMap.1 h
    cases member with
    | method name isStatic parameters body =>
        have hname : name ∈ c.methodNames := List.mem_filterMap.2 ⟨_, hmember, rfl⟩
        obtain rfl := Option.some.inj hd
        exact ⟨name, List.mem_cons_of_mem _ hname, ⟨rfl, rfl, rfl⟩⟩
    | property _ _ => cases hd
    | other => cases hd

/-- Every declaration of a file is made for a name of one of its class-likes. -/
theorem exists_name {uri : String} {content : List Char} {program : List Stmt} {d : Declaration}
    (h : d ∈ (ofStatements uri content program).declarations) :
    ∃ c ∈ classLikesOf program, ∃ name ∈ c.names, IsOfName uri content name d := by
  rw [declarations_ofStatements] at h
  obtain ⟨c, hc, hd⟩ := List.mem_flatMap.1 h
  exact ⟨c, hc, exists_name_of_mem_declarations hd⟩

end Symbols

end MockLens
