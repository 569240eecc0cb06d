/-
**The walk of the analysis through a program.**

Statements and expressions are visited in the order of their evaluation.  An expression yields its
candidate types: those of a variable or property are what was last assigned to it, those of an
instantiation its class, those of a parameter the classes of its hint, and those of a call that has
a virtual type the key of that type.  Whatever has candidate types is recorded, and so is every
method call whose method is named.

Functions, methods and closures have a scope of their own; a closure takes along `$this` and the
variables it names, a short function the whole scope.  The types of the properties of a class-like
start out from their hints, and assignments to properties of `$this` change them for everything
visited later in that class-like.

Main definitions:

* `typesOf` — the candidate types of an expression, with the state behind it;
* `visit`, `visitAll` — statements;
* `Analysis.ofStatements` — the analysis of a file.
-/
import MockLens.Analysis.State

set_option autoImplicit false

namespace MockLens

namespace Analysis

open Php (Expr Stmt Member Selector)

/-! ### Shapes of expressions -/

/-- The class an expression refers to in the place of a class; nothing when it is neither a name nor
a word for the class around it. -/
def namedClass? (imports : Imports) (st : State) : Expr → Option (Option String)
  | .name _ text => some (st.classReference imports text)
  | .classWord _ .self => some st.currentClass
  | .classWord _ .static => some st.currentClass
  | _ => none

/-- The name of a property of `$this`. -/
def ownProperty? : Expr → Selector → Option String
  | .var _ "$this", .named name => some name.text
  | _, _ => none

/-- What an assignment changes. -/
inductive Target where
  | variable (name : String)
  | ownProperty (name : String)
  | other
  deriving DecidableEq, Repr

/-- What a plain assignment to an expression changes. -/
def Target.of : Expr → Target
  | .var _ name => .variable name
  | .property _ false object selector =>
    match ownProperty? object selector with
    | some name => .ownProperty name
    | none => .other
  | _ => .other

/-- The contents of the first argument, if that is a string literal: the literal less one byte at
either end. -/
def literalSpan? : List Expr → Option Span
  | .string s _ :: _ =>
    some (if s.start + 2 ≤ s.stop then ⟨s.start + 1, s.stop - 1⟩ else s)
  | _ => none

/-- The candidate types of both lists, those of the second that are new behind the first. -/
def unite (first second : Types) : Types :=
  second.foldl (fun found t => if found.contains t then found else found ++ [t]) first

/-- The scope in which a closure starts: `$this` and the captured variables, as far as they have
candidate types. -/
def closureScope (st : State) (captures : List String) : Bindings :=
  captures.foldl
    (fun b name => if (st.lookup name).isEmpty then b else b.set name (st.lookup name))
    (Bindings.set {} "$this" (st.lookup "$this"))

/-- The scope in which a method starts. -/
def methodScope (path : Option String) (isStatic : Bool) : Bindings :=
  match path with
  | some path => if isStatic then {} else Bindings.set {} "$this" [path]
  | none => {}

/-! ### Calls -/

/-- The record of a call. -/
def callRecord (span : Span) (name : Php.Identifier) (site : CallSite) (literalSpan : Option Span)
    (receiver : Types) : Call where
  span := span
  nameSpan := name.span
  method := name.text
  signature := site.signature
  literalSpan := literalSpan
  receiverTypes := receiver
  key := site.key

/-- Records a call and yields its key, if it has one, as its only candidate type. -/
def recordCall (st : State) (span : Span) (name : Php.Identifier) (site : CallSite)
    (literalSpan : Option Span) (receiver : Types) : Types × State :=
  (site.key.toList, st.noteCall (callRecord span name site literalSpan receiver))

/-- A static call, once its class and arguments are visited. -/
def recordStatic (st : State) (span : Span) (cls : Option String) (method : Selector)
    (arguments : List CallSite.Argument) (literalSpan : Option Span) : Types × State :=
  match cls, method with
  | some path, .named name =>
    recordCall st span name ⟨CallSite.staticSignature path name.text, arguments, .fresh⟩
      literalSpan []
  | _, _ => ([], st)

/-- A member call, once its receiver and arguments are visited. -/
def recordMember (st : State) (span : Span) (receiver : Types) (method : Selector)
    (arguments : List CallSite.Argument) (literalSpan : Option Span) : Types × State :=
  match method with
  | .named name =>
    recordCall st span name
      ⟨CallSite.memberSignature receiver name.text, arguments, ChainState.ofReceiver receiver⟩
      literalSpan receiver
  | _ => ([], st)

/-- Records the candidate types a visit yields. -/
def noted (span : Span) (result : Types × State) : Types × State :=
  (result.1, result.2.note span result.1)

/-! ### The walk -/

mutual

/-- Visits an expression: its candidate types, and the state behind it. -/
def typesOf (imports : Imports) : Expr → State → Types × State
  | .var s name, st => noted s (st.lookup name, st)
  | .string _ _, st => ([], st)
  | .name _ _, st => ([], st)
  | .classWord _ _, st => ([], st)
  | .paren s inner, st => noted s (typesOf imports inner st)
  | .assign s plain target value, st =>
    let result := typesOf imports value st
    let change := if plain then Target.of target else .other
    match change with
    | .variable name =>
      noted s (result.1, (result.2.bind name result.1).note target.span result.1)
    | .ownProperty name =>
      noted s (result.1, (result.2.bindProperty name result.1).note target.span result.1)
    | .other => noted s (result.1, (typesOf imports target result.2).2)
  | .conditional s condition yes no, st =>
    let first := typesOf imports yes (typesOf imports condition st).2
    let second := typesOf imports no first.2
    noted s (unite first.1 second.1, second.2)
  | .orElse s condition no, st =>
    let second := typesOf imports no (typesOf imports condition st).2
    noted s (unite [] second.1, second.2)
  | .operation _ _ parts, st => ([], visitParts imports parts st)
  | .arm _ _ body, st => ([], (typesOf imports body st).2)
  | .clone s object, st => noted s (typesOf imports object st)
  | .new s cls arguments, st =>
    let behind := (argumentsOf imports arguments st).2
    noted s ((namedClass? imports behind cls).join.toList, behind)
  | .newAnonymous _ arguments members, st =>
    let inside := ((argumentsOf imports arguments st).2).enterClass none
    let seeded := members.foldl (State.bindMember imports) inside
    ([], (visitMembers imports none members seeded).leaveClass)
  | .closure _ parameters captures body, st =>
    let inside := (st.enterScope (closureScope st captures)).bindParameters imports parameters
    ([], (visitAll imports body inside).leaveScope)
  | .arrow _ parameters body, st =>
    let inside := (st.enterScope st.innermost).bindParameters imports parameters
    ([], (typesOf imports body inside).2.leaveScope)
  | .call _ _ arguments, st => ([], (argumentsOf imports arguments st).2)
  | .staticCall s cls method arguments, st =>
    match namedClass? imports st cls with
    | some path =>
      let result := argumentsOf imports arguments st
      noted s (recordStatic result.2 s path method result.1 (literalSpan? arguments))
    | none =>
      let result := argumentsOf imports arguments (typesOf imports cls st).2
      ([], result.2)
  | .methodCall s object method arguments, st =>
    let receiver := typesOf imports object st
    let result := argumentsOf imports arguments receiver.2
    noted s (recordMember result.2 s receiver.1 method result.1 (literalSpan? arguments))
  | .property s _ object selector, st =>
    let behind := (typesOf imports object st).2
    match ownProperty? object selector with
    | some name => noted s (behind.lookupProperty name, behind)
    | none => ([], behind)
  | .classMember _ cls, st => ([], (typesOf imports cls st).2)
  | .construct _ _ _, st => ([], st)

/-- Visits expressions for what they do to the state. -/
def visitParts (imports : Imports) : List Expr → State → State
  | [], st => st
  | e :: rest, st => visitParts imports rest (typesOf imports e st).2

/-- Visits arguments: what is known of each, and the state behind them.  A string literal is known
by its contents and not visited. -/
def argumentsOf (imports : Imports) : List Expr → State → List CallSite.Argument × State
  | [], st => ([], st)
  | .string _ value :: rest, st =>
    let more := argumentsOf imports rest st
    (.literal (value.getD "") :: more.1, more.2)
  | e :: rest, st =>
    let result := typesOf imports e st
    let more := argumentsOf imports rest result.2
    ((if result.1.isEmpty then .other else .typed result.1) :: more.1, more.2)

/-- Visits a statement. -/
def visit (imports : Imports) : Stmt → State → State
  | .scope name body, st =>
    { visitAll imports body { st with scope := name.filter (fun n => n != "") } with
      scope := st.scope }
  | .imports _, st => st
  | .classLike .interface _ _, st => st
  | .classLike _ name members, st =>
    let path := some (st.declaredClass name.text)
    let seeded := members.foldl (State.bindMember imports) (st.enterClass path)
    (visitMembers imports path members seeded).leaveClass
  | .function _ parameters body, st =>
    (visitAll imports body ((st.enterScope {}).bindParameters imports parameters)).leaveScope
  | .evaluate _ values, st => visitParts imports values st
  | .block body, st => visitAll imports body st
  | .ifElse condition yes no, st =>
    visitAll imports no (visitAll imports yes (typesOf imports condition st).2)
  | .foreachLoop subject _ body, st => visitAll imports body (typesOf imports subject st).2
  | .forLoop initial conditions increments body, st =>
    visitParts imports increments
      (visitAll imports body (visitParts imports conditions (visitParts imports initial st)))
  | .whileLoop condition body, st => visitAll imports body (typesOf imports condition st).2
  | .doWhileLoop body condition, st => (typesOf imports condition (visitAll imports body st)).2
  | .guarded body handlers, st => visitAll imports handlers (visitAll imports body st)
  | .handler _ body, st => visitAll imports body st
  | .switch subject cases, st => visitAll imports cases (typesOf imports subject st).2
  | .case _ body, st => visitAll imports body st
  | .inert _ _, st => st

/-- Visits statements. -/
def visitAll (imports : Imports) : List Stmt → State → State
  | [], st => st
  | s :: rest, st => visitAll imports rest (visit imports s st)

/-- Visits a member of the class-like `path`. -/
def visitMember (imports : Imports) (path : Option String) : Member → State → State
  | .method _ isStatic parameters body, st =>
    let inside := (st.enterScope (methodScope path isStatic)).bindParameters imports parameters
    (visitAll imports body inside).leaveScope
  | _, st => st

/-- Visits the members of the class-like `path`. -/
def visitMembers (imports : Imports) (path : Option String) : List Member → State → State
  | [], st => st
  | m :: rest, st => visitMembers imports path rest (visitMember imports path m st)

end

/-- The analysis of a file with the given imports. -/
def ofStatements (imports : Imports) (statements : List Stmt) : Analysis :=
  (visitAll imports statements {}).records

end Analysis

end MockLens
