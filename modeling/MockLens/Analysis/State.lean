/-
**The state of an analysis.**

While a file is analysed, the state keeps the namespace, the class-likes around the place reached, a
table of property types for each of them, the scopes around the place with the types of their
variables, and the records made so far.  The innermost class-like and scope stand first.

Main definitions:

* `Types`, `Bindings` — candidate types, and the types of variables or properties;
* `State` — the state, with `State.lookup`, `State.bind`, `State.bindProperty`, …;
* `State.classReference`, `State.hintTypes` — the class a name in the source refers to;
* `State.note`, `State.noteCall` — adding records.
-/
import MockLens.Analysis
import MockLens.CallSite
import MockLens.Imports
import MockLens.Php.Hint

set_option autoImplicit false

namespace MockLens

namespace Analysis

/-- Candidate types: class names that start with a backslash, and keys. -/
abbrev Types := List String

/-! ### Bindings -/

/-- The candidate types of variables or properties; a name that is not bound has none. -/
structure Bindings where
  entries : List (String × Types) := []
  deriving DecidableEq, Repr

namespace Bindings

/-- The candidate types of a name. -/
def lookup (b : Bindings) (name : String) : Types := (b.entries.lookup name).getD []

/-- Replaces the candidate types of a name. -/
def set (b : Bindings) (name : String) (types : Types) : Bindings :=
  let others := b.entries.filter (fun e => e.1 != name)
  ⟨if types.isEmpty then others else (name, types) :: others⟩

end Bindings

/-! ### The state -/

/-- What the analysis knows at a place in the source, and what it has recorded on the way. -/
structure State where
  /-- The namespace. -/
  scope : Option String := none
  /-- The fully qualified names of the class-likes around the place; an anonymous one has none. -/
  classes : List (Option String) := []
  /-- The types of the properties of those class-likes. -/
  properties : List Bindings := []
  /-- The types of the variables in the scopes around the place. -/
  scopes : List Bindings := [{}]
  records : Analysis := {}
  deriving DecidableEq, Repr

namespace State

/-- The innermost scope. -/
def innermost (st : State) : Bindings := st.scopes.head?.getD {}

/-- The candidate types of a variable in the innermost scope. -/
def lookup (st : State) (name : String) : Types := st.innermost.lookup name

/-- Replaces the candidate types of a variable in the innermost scope. -/
def bind (st : State) (name : String) (types : Types) : State :=
  { st with scopes := st.innermost.set name types :: st.scopes.tail }

/-- The candidate types of a property of the innermost class-like. -/
def lookupProperty (st : State) (name : String) : Types :=
  ((st.properties.head?.getD {}).lookup name)

/-- Replaces the candidate types of a property of the innermost class-like, if there is one. -/
def bindProperty (st : State) (name : String) (types : Types) : State :=
  match st.properties with
  | [] => st
  | table :: outer => { st with properties := table.set name types :: outer }

/-- The fully qualified name of the innermost class-like. -/
def currentClass (st : State) : Option String := st.classes.head?.join

/-- Enters a scope. -/
def enterScope (st : State) (bound : Bindings) : State :=
  { st with scopes := bound :: st.scopes }

/-- Leaves the innermost scope. -/
def leaveScope (st : State) : State := { st with scopes := st.scopes.tail }

/-- Enters a class-like, whose properties have no types yet. -/
def enterClass (st : State) (path : Option String) : State :=
  { st with classes := path :: st.classes, properties := {} :: st.properties }

/-- Leaves the innermost class-like. -/
def leaveClass (st : State) : State :=
  { st with classes := st.classes.tail, properties := st.properties.tail }

/-! ### Classes -/

/-- The class a name refers to: the words for the class around the place, and any other name as it
is qualified here.  The parent class is not known. -/
def classReference (st : State) (imports : Imports) (name : String) : Option String :=
  if Text.sameFold name "self" || Text.sameFold name "static" then st.currentClass
  else if Text.sameFold name "parent" then none
  else some (imports.qualify st.scope name)

/-- The classes a type hint names. -/
def hintTypes (st : State) (imports : Imports) (hint : Php.Hint) : Types :=
  (Php.hintClassNames hint.text).filterMap (st.classReference imports)

/-- Binds each parameter that has a hint to the classes of the hint. -/
def bindParameters (imports : Imports) (parameters : List Php.Parameter) (st : State) : State :=
  parameters.foldl
    (fun st p =>
      match p.hint with
      | some hint => st.bind p.variableName (st.hintTypes imports hint)
      | none => st)
    st

/-- Binds the properties a member declares with a hint to the classes of the hint. -/
def bindMember (imports : Imports) (st : State) : Php.Member → State
  | .property (some hint) names =>
    names.foldl
      (fun st name => st.bindProperty (Text.trimStart (· == '$') name) (st.hintTypes imports hint))
      st
  | _ => st

/-- The fully qualified name, with a leading backslash, of a class-like declared here. -/
def declaredClass (st : State) (name : String) : String := Imports.qualify {} st.scope name

/-! ### Records -/

/-- Records an expression with its candidate types, unless there are none. -/
def note (st : State) (span : Span) (types : Types) : State :=
  if types.isEmpty then st
  else { st with records := { st.records with typed := st.records.typed.push ⟨span, types⟩ } }

/-- Records a call. -/
def noteCall (st : State) (call : Call) : State :=
  { st with records := { st.records with calls := st.records.calls.push call } }

end State

end Analysis

end MockLens
