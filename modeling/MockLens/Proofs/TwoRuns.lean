/-
**Two runs: what an analysis can see of the state it starts from.**

The state of the walk (`MockLens/Analysis/State.lean`) holds four stacks and all records made so
far, but a visit looks at the innermost level of each stack only, and what is below that level it
leaves as it was.  Both are said at once here, of two runs: when two states agree on the namespace,
the innermost class-like, the types of its properties and the types of the variables in the
innermost scope, then a visit from the one and a visit from the other yield the same types, record
the same, and come to states that agree again.

The relation between the runs is shown to be kept by each operation on the state, then by each form
of the language.  A function and a method start from a scope of their own, so they need no agreement
on variables, and a class-like needs none on the class-like around it either.

Main definitions:

* `SamePlace` — agreement on the namespace, the innermost class-like and its properties;
* `Inside` — a state whose stacks differ from those of another in the innermost level alone;
* `SameRecords` — two runs have recorded the same;
* `Beside`, `InStep`, `ScopesKept` — two runs at the same place, in which the variables have the
  same types, or in which no variable was touched.

Main results:

* `inStep_typesOf`, `inStep_visit`, `inStep_visitAll` — a visit keeps two runs in step;
* `scopesKept_visitMembers` — the members of a class-like are visited without regard to variables.
-/
import MockLens.Proofs.States
import MockLens.Proofs.Visits

set_option autoImplicit false

namespace MockLens

namespace Analysis

open Php (Expr Stmt Member Selector)

/-! ### Records one behind the other -/

instance : Append Analysis := ⟨fun a b => ⟨a.calls ++ b.calls, a.typed ++ b.typed⟩⟩

theorem append_def (a b : Analysis) : a ++ b = ⟨a.calls ++ b.calls, a.typed ++ b.typed⟩ := rfl

@[simp] theorem append_empty (a : Analysis) : a ++ ({} : Analysis) = a :=
  congrArg₂ Analysis.mk Array.append_empty Array.append_empty

@[simp] theorem empty_append (a : Analysis) : ({} : Analysis) ++ a = a :=
  congrArg₂ Analysis.mk Array.empty_append Array.empty_append

theorem append_assoc (a b c : Analysis) : a ++ b ++ c = a ++ (b ++ c) :=
  congrArg₂ Analysis.mk Array.append_assoc Array.append_assoc

@[simp] theorem State.records_bindProperty (st : State) (name : String) (types : Types) :
    (st.bindProperty name types).records = st.records := by
  unfold bindProperty
  split <;> rfl

/-- Adds records. -/
def State.record (st : State) (new : Analysis) : State := { st with records := st.records ++ new }

theorem State.note_eq_record (st : State) (span : Span) (types : Types) :
    st.note span types
      = st.record ⟨#[], if types.isEmpty then #[] else #[⟨span, types⟩]⟩ := by
  unfold note record
  split <;> simp [append_def]

theorem State.noteCall_eq_record (st : State) (call : Call) :
    st.noteCall call = st.record ⟨#[call], #[]⟩ := by
  simp [noteCall, record, append_def]

/-! ### Agreement -/

/-- Two tables that give every name the same types. -/
def Bindings.Alike (b b' : Bindings) : Prop := ∀ name, b.lookup name = b'.lookup name

theorem Bindings.Alike.refl (b : Bindings) : b.Alike b := fun _ => rfl

theorem Bindings.Alike.set {b b' : Bindings} (h : b.Alike b') (name : String) (types : Types) :
    (b.set name types).Alike (b'.set name types) := by
  intro other
  rw [Bindings.lookup_set, Bindings.lookup_set, h other]

/-- Two states agree on the namespace, on the innermost class-like and on the types of its
properties. -/
structure SamePlace (st st' : State) : Prop where
  scope : st.scope = st'.scope
  currentClass : st.currentClass = st'.currentClass
  properties : Option.Rel Bindings.Alike st.properties.head? st'.properties.head?

namespace SamePlace

variable {st st' : State}

theorem classReference (h : SamePlace st st') (imports : Imports) (name : String) :
    st.classReference imports name = st'.classReference imports name := by
  simp only [State.classReference, h.scope, h.currentClass]

theorem declaredClass (h : SamePlace st st') (name : String) :
    st.declaredClass name = st'.declaredClass name := by
  rw [State.declaredClass, State.declaredClass, h.scope]

theorem hintTypes (h : SamePlace st st') (imports : Imports) (hint : Php.Hint) :
    st.hintTypes imports hint = st'.hintTypes imports hint := by
  have heq : st.classReference imports = st'.classReference imports :=
    funext (h.classReference imports)
  rw [State.hintTypes, State.hintTypes, heq]

theorem namedClass? (h : SamePlace st st') (imports : Imports) (e : Expr) :
    namedClass? imports st e = namedClass? imports st' e := by
  unfold Analysis.namedClass?
  split
  · rw [h.classReference]
  · rw [h.currentClass]
  · rw [h.currentClass]
  · rfl

theorem lookupProperty (h : SamePlace st st') (name : String) :
    st.lookupProperty name = st'.lookupProperty name := by
  have hproperties := h.properties
  unfold State.lookupProperty
  generalize st.properties.head? = table at hproperties
  generalize st'.properties.head? = table' at hproperties
  cases hproperties with
  | none => rfl
  | some halike => exact halike name

theorem bindProperty (h : SamePlace st st') (name : String) (types : Types) :
    SamePlace (st.bindProperty name types) (st'.bindProperty name types) := by
  obtain ⟨hscope, hclass, hproperties⟩ := h
  unfold State.bindProperty
  cases hst : st.properties with
  | nil =>
      cases hst' : st'.properties with
      | nil => exact ⟨hscope, hclass, by simp [hst, hst']⟩
      | cons _ _ =>
          rw [hst, hst'] at hproperties
          cases hproperties
  | cons b _ =>
      cases hst' : st'.properties with
      | nil =>
          rw [hst, hst'] at hproperties
          cases hproperties
      | cons b' _ =>
          rw [hst, hst'] at hproperties
          cases hproperties with
          | some halike => exact ⟨hscope, hclass, .some (halike.set name types)⟩

end SamePlace

/-! ### Runs -/

/-- A state that differs from `base` in the innermost variables and properties and in its records
alone. -/
structure Inside (base st : State) : Prop where
  scope : st.scope = base.scope
  classes : st.classes = base.classes
  properties : st.properties.tail = base.properties.tail
  propertyCount : st.properties.length = base.properties.length
  scopes : st.scopes.tail = base.scopes.tail
  scopeCount : base.scopes ≠ [] → st.scopes.length = base.scopes.length

namespace Inside

variable {base st : State}

theorem refl (st : State) : Inside st st := ⟨rfl, rfl, rfl, rfl, rfl, fun _ => rfl⟩

theorem record (h : Inside base st) (new : Analysis) : Inside base (st.record new) :=
  ⟨h.scope, h.classes, h.properties, h.propertyCount, h.scopes, h.scopeCount⟩

theorem bind (h : Inside base st) (name : String) (types : Types) :
    Inside base (st.bind name types) := by
  refine ⟨h.scope, h.classes, h.properties, h.propertyCount, h.scopes, fun hbase => ?_⟩
  have hcount := h.scopeCount hbase
  have hpos := List.length_pos_iff.2 hbase
  simp only [State.bind, List.length_cons, List.length_tail]
  omega

theorem bindProperty (h : Inside base st) (name : String) (types : Types) :
    Inside base (st.bindProperty name types) := by
  unfold State.bindProperty
  cases hst : st.properties with
  | nil => exact h
  | cons _ _ =>
      refine ⟨h.scope, h.classes, ?_, ?_, h.scopes, h.scopeCount⟩
      · simpa [hst] using h.properties
      · simpa [hst] using h.propertyCount

/-- Behind the body of a namespace the namespace is the one from before it. -/
theorem rescope (h : Inside base st) {scope : Option String} {inner : State}
    (hinner : Inside { st with scope := scope } inner) :
    Inside base { inner with scope := st.scope } := by
  refine ⟨h.scope, hinner.classes.trans h.classes, hinner.properties.trans h.properties,
    hinner.propertyCount.trans h.propertyCount, hinner.scopes.trans h.scopes, fun hbase => ?_⟩
  have hcount := h.scopeCount hbase
  have hpos := List.length_pos_iff.2 hbase
  have hst : st.scopes ≠ [] := List.length_pos_iff.1 (by omega)
  exact (hinner.scopeCount hst).trans hcount

/-- Behind a scope that was entered from `st` and is left again, all variables are as in `st`. -/
theorem scopes_leaveScope {bound : Bindings} {inner : State}
    (h : Inside (st.enterScope bound) inner) : inner.leaveScope.scopes = st.scopes := h.scopes

theorem leaveScope (h : Inside base st) {bound : Bindings} {inner : State}
    (hinner : Inside (st.enterScope bound) inner) : Inside base inner.leaveScope := by
  have hscopes := hinner.scopes_leaveScope
  refine ⟨hinner.scope.trans h.scope, hinner.classes.trans h.classes,
    hinner.properties.trans h.properties, hinner.propertyCount.trans h.propertyCount, ?_, ?_⟩
  · rw [hscopes]
    exact h.scopes
  · rw [hscopes]
    exact h.scopeCount

/-- Behind a class-like that was entered from `st` and is left again, all properties are as in
`st`. -/
theorem properties_leaveClass {path : Option String} {inner : State}
    (h : Inside (st.enterClass path) inner) : inner.leaveClass.properties = st.properties :=
  h.properties

theorem leaveClass (h : Inside base st) {path : Option String} {inner : State}
    (hinner : Inside (st.enterClass path) inner) (hscopes : inner.scopes = st.scopes) :
    Inside base inner.leaveClass := by
  have hclasses : inner.leaveClass.classes = st.classes := congrArg List.tail hinner.classes
  have hproperties := hinner.properties_leaveClass
  have hkept : inner.leaveClass.scopes = st.scopes := hscopes
  refine ⟨hinner.scope.trans h.scope, ?_, ?_, ?_, ?_, ?_⟩
  · rw [hclasses, h.classes]
  · rw [hproperties, h.properties]
  · rw [hproperties, h.propertyCount]
  · rw [hkept, h.scopes]
  · rw [hkept]
    exact h.scopeCount

end Inside

/-- From `base` to `st` the same records are made as from `base'` to `st'`. -/
def SameRecords (base base' st st' : State) : Prop :=
  ∃ new : Analysis, st.records = base.records ++ new ∧ st'.records = base'.records ++ new

theorem SameRecords.trans {base base' st st' after after' : State}
    (h : SameRecords base base' st st') (hafter : SameRecords st st' after after') :
    SameRecords base base' after after' := by
  obtain ⟨before, hst, hst'⟩ := h
  obtain ⟨new, hnew, hnew'⟩ := hafter
  refine ⟨before ++ new, ?_, ?_⟩
  · rw [hnew, hst, append_assoc]
  · rw [hnew', hst', append_assoc]

/-- Two runs, begun in `base` and `base'`, that have come to the same place and have recorded the
same. -/
structure Beside (base base' st st' : State) : Prop where
  left : Inside base st
  right : Inside base' st'
  place : SamePlace st st'
  records : SameRecords base base' st st'

/-- Two runs beside each other in which the variables have the same types. -/
structure InStep (base base' st st' : State) : Prop extends Beside base base' st st' where
  bound : st.innermost.Alike st'.innermost

/-- Two runs beside each other that have left all variables alone. -/
structure ScopesKept (base base' st st' : State) : Prop extends Beside base base' st st' where
  leftScopes : st.scopes = base.scopes
  rightScopes : st'.scopes = base'.scopes

namespace Beside

variable {base base' st st' : State}

theorem refl (h : SamePlace st st') : Beside st st' st st' :=
  ⟨.refl st, .refl st', h, {}, by simp⟩

theorem record (h : Beside base base' st st') (new : Analysis) :
    Beside base base' (st.record new) (st'.record new) := by
  obtain ⟨hleft, hright, hplace, before, hst, hst'⟩ := h
  refine ⟨hleft.record new, hright.record new,
    ⟨hplace.scope, hplace.currentClass, hplace.properties⟩, before ++ new, ?_⟩
  simp [State.record, hst, hst', append_assoc]

theorem bind (h : Beside base base' st st') (name : String) (types : Types) :
    Beside base base' (st.bind name types) (st'.bind name types) :=
  ⟨h.left.bind name types, h.right.bind name types,
    ⟨h.place.scope, h.place.currentClass, h.place.properties⟩, h.records⟩

theorem bindProperty (h : Beside base base' st st') (name : String) (types : Types) :
    Beside base base' (st.bindProperty name types) (st'.bindProperty name types) := by
  refine ⟨h.left.bindProperty name types, h.right.bindProperty name types,
    h.place.bindProperty name types, ?_⟩
  rw [SameRecords, State.records_bindProperty, State.records_bindProperty]
  exact h.records

theorem leaveScope (h : Beside base base' st st') {bound bound' : Bindings} {inner inner' : State}
    (hinner : Beside (st.enterScope bound) (st'.enterScope bound') inner inner') :
    Beside base base' inner.leaveScope inner'.leaveScope :=
  ⟨h.left.leaveScope hinner.left, h.right.leaveScope hinner.right,
    ⟨hinner.place.scope, hinner.place.currentClass, hinner.place.properties⟩,
    h.records.trans hinner.records⟩

theorem rescope (h : Beside base base' st st') {scope : Option String} {inner inner' : State}
    (hinner : Beside { st with scope := scope } { st' with scope := scope } inner inner') :
    Beside base base' { inner with scope := st.scope } { inner' with scope := st'.scope } :=
  ⟨h.left.rescope hinner.left, h.right.rescope hinner.right,
    ⟨h.place.scope, hinner.place.currentClass, hinner.place.properties⟩,
    h.records.trans hinner.records⟩

end Beside

namespace InStep

variable {base base' st st' : State}

theorem record (h : InStep base base' st st') (new : Analysis) :
    InStep base base' (st.record new) (st'.record new) :=
  ⟨h.toBeside.record new, h.bound⟩

theorem note (h : InStep base base' st st') (span : Span) (types : Types) :
    InStep base base' (st.note span types) (st'.note span types) := by
  rw [State.note_eq_record, State.note_eq_record]
  exact h.record _

theorem noteCall (h : InStep base base' st st') (call : Call) :
    InStep base base' (st.noteCall call) (st'.noteCall call) := by
  rw [State.noteCall_eq_record, State.noteCall_eq_record]
  exact h.record _

theorem bind (h : InStep base base' st st') (name : String) (types : Types) :
    InStep base base' (st.bind name types) (st'.bind name types) :=
  ⟨h.toBeside.bind name types, h.bound.set name types⟩

theorem bindProperty (h : InStep base base' st st') (name : String) (types : Types) :
    InStep base base' (st.bindProperty name types) (st'.bindProperty name types) := by
  refine ⟨h.toBeside.bindProperty name types, ?_⟩
  unfold State.bindProperty
  split <;> split <;> exact h.bound

theorem lookup (h : InStep base base' st st') (name : String) :
    st.lookup name = st'.lookup name := h.bound name

theorem bindParameters (imports : Imports) (parameters : List Php.Parameter) :
    ∀ {st st' : State}, InStep base base' st st' →
      InStep base base' (st.bindParameters imports parameters)
        (st'.bindParameters imports parameters) := by
  induction parameters with
  | nil => exact fun h => h
  | cons p parameters ih =>
      intro st st' h
      refine ih ?_
      dsimp only
      split
      · rename_i hint _
        rw [h.place.hintTypes imports hint]
        exact h.bind _ _
      · exact h

/-- The scope of a function, entered from two states at the same place. -/
theorem entered (h : SamePlace st st') (imports : Imports) {bound bound' : Bindings}
    (hbound : bound.Alike bound') (parameters : List Php.Parameter) :
    InStep (st.enterScope bound) (st'.enterScope bound')
      (Analysis.entered imports bound parameters st)
      (Analysis.entered imports bound' parameters st') :=
  .bindParameters imports parameters
    ⟨.refl ⟨h.scope, h.currentClass, h.properties⟩, hbound⟩

theorem leaveScope (h : InStep base base' st st') {bound bound' : Bindings}
    {inner inner' : State}
    (hinner : InStep (st.enterScope bound) (st'.enterScope bound') inner inner') :
    InStep base base' inner.leaveScope inner'.leaveScope := by
  refine ⟨h.toBeside.leaveScope hinner.toBeside, ?_⟩
  rw [State.innermost, State.innermost, hinner.left.scopes_leaveScope,
    hinner.right.scopes_leaveScope]
  exact h.bound

/-- The body of a namespace, entered from two states in step. -/
theorem inScope (h : InStep base base' st st') (scope : Option String) :
    InStep { st with scope := scope } { st' with scope := scope } { st with scope := scope }
      { st' with scope := scope } :=
  ⟨.refl ⟨rfl, h.place.currentClass, h.place.properties⟩, h.bound⟩

theorem rescope (h : InStep base base' st st') {scope : Option String} {inner inner' : State}
    (hinner : InStep { st with scope := scope } { st' with scope := scope } inner inner') :
    InStep base base' { inner with scope := st.scope } { inner' with scope := st'.scope } :=
  ⟨h.toBeside.rescope hinner.toBeside, hinner.bound⟩

end InStep

namespace ScopesKept

variable {base base' st st' : State}

theorem refl (h : SamePlace st st') : ScopesKept st st' st st' := ⟨.refl h, rfl, rfl⟩

theorem bindProperty (h : ScopesKept base base' st st') (name : String) (types : Types) :
    ScopesKept base base' (st.bindProperty name types) (st'.bindProperty name types) := by
  refine ⟨h.toBeside.bindProperty name types, ?_, ?_⟩
  · rw [← h.leftScopes]
    unfold State.bindProperty
    split <;> rfl
  · rw [← h.rightScopes]
    unfold State.bindProperty
    split <;> rfl

theorem bindProperties (imports : Imports) (hint : Php.Hint) (names : List String) :
    ∀ {st st' : State}, ScopesKept base base' st st' →
      ScopesKept base base'
        (names.foldl
          (fun st name =>
            st.bindProperty (Text.trimStart (· == '$') name) (st.hintTypes imports hint)) st)
        (names.foldl
          (fun st name =>
            st.bindProperty (Text.trimStart (· == '$') name) (st.hintTypes imports hint)) st') := by
  induction names with
  | nil => exact fun h => h
  | cons name names ih =>
      intro st st' h
      refine ih ?_
      dsimp only
      rw [h.place.hintTypes imports hint]
      exact h.bindProperty _ _

theorem bindMembers (imports : Imports) (members : List Member) :
    ∀ {st st' : State}, ScopesKept base base' st st' →
      ScopesKept base base' (members.foldl (State.bindMember imports) st)
        (members.foldl (State.bindMember imports) st') := by
  induction members with
  | nil => exact fun h => h
  | cons m members ih =>
      intro st st' h
      refine ih ?_
      unfold State.bindMember
      split
      · exact .bindProperties imports _ _ h
      · exact h

/-- A class-like, entered from two states of the same namespace. -/
theorem seeded (h : st.scope = st'.scope) (imports : Imports) (path : Option String)
    (members : List Member) :
    ScopesKept (st.enterClass path) (st'.enterClass path)
      (Analysis.seeded imports path members st) (Analysis.seeded imports path members st') :=
  .bindMembers imports members (.refl ⟨h, rfl, .some (.refl {})⟩)

/-- The body of a namespace, entered from two states at the same place. -/
theorem inScope (h : ScopesKept base base' st st') (scope : Option String) :
    ScopesKept { st with scope := scope } { st' with scope := scope } { st with scope := scope }
      { st' with scope := scope } :=
  .refl ⟨rfl, h.place.currentClass, h.place.properties⟩

theorem rescope (h : ScopesKept base base' st st') {scope : Option String} {inner inner' : State}
    (hinner : ScopesKept { st with scope := scope } { st' with scope := scope } inner inner') :
    ScopesKept base base' { inner with scope := st.scope } { inner' with scope := st'.scope } :=
  ⟨h.toBeside.rescope hinner.toBeside, hinner.leftScopes.trans h.leftScopes,
    hinner.rightScopes.trans h.rightScopes⟩

/-- A function is left: the variables are those from before it. -/
theorem leaveScope (h : ScopesKept base base' st st') {bound bound' : Bindings}
    {inner inner' : State}
    (hinner : InStep (st.enterScope bound) (st'.enterScope bound') inner inner') :
    ScopesKept base base' inner.leaveScope inner'.leaveScope :=
  ⟨h.toBeside.leaveScope hinner.toBeside,
    hinner.left.scopes_leaveScope.trans h.leftScopes,
    hinner.right.scopes_leaveScope.trans h.rightScopes⟩

end ScopesKept

theorem Beside.leaveClass {base base' st st' : State} (h : Beside base base' st st')
    {path : Option String} {inner inner' : State}
    (hinner : ScopesKept (st.enterClass path) (st'.enterClass path) inner inner') :
    Beside base base' inner.leaveClass inner'.leaveClass := by
  have hclasses : inner.leaveClass.classes = st.classes := congrArg List.tail hinner.left.classes
  have hclasses' : inner'.leaveClass.classes = st'.classes :=
    congrArg List.tail hinner.right.classes
  refine ⟨h.left.leaveClass hinner.left hinner.leftScopes,
    h.right.leaveClass hinner.right hinner.rightScopes, ⟨hinner.place.scope, ?_, ?_⟩,
    h.records.trans hinner.records⟩
  · rw [State.currentClass, State.currentClass, hclasses, hclasses']
    exact h.place.currentClass
  · rw [hinner.left.properties_leaveClass, hinner.right.properties_leaveClass]
    exact h.place.properties

theorem ScopesKept.leaveClass {base base' st st' : State} (h : ScopesKept base base' st st')
    {path : Option String} {inner inner' : State}
    (hinner : ScopesKept (st.enterClass path) (st'.enterClass path) inner inner') :
    ScopesKept base base' inner.leaveClass inner'.leaveClass :=
  ⟨h.toBeside.leaveClass hinner, hinner.leftScopes.trans h.leftScopes,
    hinner.rightScopes.trans h.rightScopes⟩

theorem InStep.leaveClass {base base' st st' : State} (h : InStep base base' st st')
    {path : Option String} {inner inner' : State}
    (hinner : ScopesKept (st.enterClass path) (st'.enterClass path) inner inner') :
    InStep base base' inner.leaveClass inner'.leaveClass := by
  refine ⟨h.toBeside.leaveClass hinner, ?_⟩
  have hscopes : inner.leaveClass.scopes = st.scopes := hinner.leftScopes
  have hscopes' : inner'.leaveClass.scopes = st'.scopes := hinner.rightScopes
  rw [State.innermost, State.innermost, hscopes, hscopes']
  exact h.bound

/-! ### The walk in two runs -/

/-- Two results with the same answer, in states that are in step. -/
structure Same {α : Type} (base base' : State) (result result' : α × State) : Prop where
  answer : result.1 = result'.1
  states : InStep base base' result.2 result'.2

theorem Same.noted {base base' : State} {result result' : Types × State}
    (h : Same base base' result result') (span : Span) :
    Same base base' (noted span result) (noted span result') := by
  refine ⟨h.answer, ?_⟩
  unfold Analysis.noted
  rw [h.answer]
  exact h.states.note span _

theorem InStep.noted {base base' st st' : State} (h : InStep base base' st st')
    {types types' : Types} (htypes : types = types') (span : Span) :
    Same base base' (Analysis.noted span (types, st)) (Analysis.noted span (types', st')) :=
  Same.noted ⟨htypes, h⟩ span

theorem InStep.recordCall {base base' st st' : State} (h : InStep base base' st st') (span : Span)
    (name : Php.Identifier) (site : CallSite) (literalSpan : Option Span) (receiver : Types) :
    Same base base' (recordCall st span name site literalSpan receiver)
      (recordCall st' span name site literalSpan receiver) :=
  ⟨rfl, h.noteCall _⟩

theorem InStep.recordStatic {base base' st st' : State} (h : InStep base base' st st')
    (span : Span) (cls : Option String) (method : Selector) (arguments : List CallSite.Argument)
    (literalSpan : Option Span) :
    Same base base' (recordStatic st span cls method arguments literalSpan)
      (recordStatic st' span cls method arguments literalSpan) := by
  unfold Analysis.recordStatic
  split
  · exact h.recordCall ..
  · exact ⟨rfl, h⟩

theorem InStep.recordMember {base base' st st' : State} (h : InStep base base' st st')
    (span : Span) (receiver : Types) (method : Selector) (arguments : List CallSite.Argument)
    (literalSpan : Option Span) :
    Same base base' (recordMember st span receiver method arguments literalSpan)
      (recordMember st' span receiver method arguments literalSpan) := by
  unfold Analysis.recordMember
  split
  · exact h.recordCall ..
  · exact ⟨rfl, h⟩

/-- A closure starts from the same scope where `$this` and the captured variables have the same
types. -/
theorem closureScope_alike {st st' : State} {captures : List String}
    (h : ∀ name, name = "$this" ∨ name ∈ captures → st.lookup name = st'.lookup name) :
    (closureScope st captures).Alike (closureScope st' captures) := by
  intro name
  rw [closureScope_lookup, closureScope_lookup]
  split
  · exact h name ‹_›
  · rfl

mutual

/-- **An expression keeps two runs in step** and yields the same types in both. -/
theorem inStep_typesOf (imports : Imports) (e : Expr) {base base' st st' : State}
    (h : InStep base base' st st') :
    Same base base' (typesOf imports e st) (typesOf imports e st') := by
  cases e with
  | var s name =>
      simp only [typesOf]
      exact h.noted (h.lookup name) s
  | string _ _ => exact ⟨rfl, h⟩
  | name _ _ => exact ⟨rfl, h⟩
  | classWord _ _ => exact ⟨rfl, h⟩
  | paren s inner =>
      simp only [typesOf]
      exact (inStep_typesOf imports inner h).noted s
  | assign s plain target value =>
      have hvalue := inStep_typesOf imports value h
      simp only [typesOf]
      generalize (if plain then Target.of target else .other) = change
      rw [hvalue.answer]
      rcases change with name | name | _
      · exact ((hvalue.states.bind name _).note _ _).noted rfl s
      · exact ((hvalue.states.bindProperty name _).note _ _).noted rfl s
      · exact (inStep_typesOf imports target hvalue.states).states.noted rfl s
  | conditional s condition yes no =>
      have hcondition := inStep_typesOf imports condition h
      have hyes := inStep_typesOf imports yes hcondition.states
      have hno := inStep_typesOf imports no hyes.states
      simp only [typesOf]
      exact hno.states.noted (congrArg₂ unite hyes.answer hno.answer) s
  | orElse s condition no =>
      have hcondition := inStep_typesOf imports condition h
      have hno := inStep_typesOf imports no hcondition.states
      simp only [typesOf]
      exact hno.states.noted (congrArg (unite []) hno.answer) s
  | operation _ _ parts =>
      simp only [typesOf]
      exact ⟨rfl, inStep_visitParts imports parts h⟩
  | arm _ _ body =>
      simp only [typesOf]
      exact ⟨rfl, (inStep_typesOf imports body h).states⟩
  | clone s object =>
      simp only [typesOf]
      exact (inStep_typesOf imports object h).noted s
  | new s cls arguments =>
      have harguments := (inStep_argumentsOf imports arguments h).states
      simp only [typesOf]
      refine harguments.noted ?_ s
      rw [harguments.place.namedClass? imports cls]
  | newAnonymous _ arguments members =>
      have harguments := (inStep_argumentsOf imports arguments h).states
      simp only [typesOf]
      exact ⟨rfl, harguments.leaveClass
        (scopesKept_visitMembers imports none members
          (.seeded harguments.place.scope imports none members))⟩
  | closure _ parameters captures body =>
      have hcaptured : (closureScope st captures).Alike (closureScope st' captures) :=
        closureScope_alike fun name _ => h.lookup name
      have hinside := InStep.entered h.place imports hcaptured parameters
      simp only [typesOf]
      exact ⟨rfl, h.leaveScope (inStep_visitAll imports body hinside)⟩
  | arrow _ parameters body =>
      have hinside := InStep.entered h.place imports h.bound parameters
      simp only [typesOf]
      exact ⟨rfl, h.leaveScope (inStep_typesOf imports body hinside).states⟩
  | call _ _ arguments =>
      simp only [typesOf]
      exact ⟨rfl, (inStep_argumentsOf imports arguments h).states⟩
  | staticCall s cls method arguments =>
      simp only [typesOf]
      rw [h.place.namedClass? imports cls]
      split
      · have harguments := inStep_argumentsOf imports arguments h
        rw [harguments.answer]
        exact (harguments.states.recordStatic ..).noted s
      · have hcls := inStep_typesOf imports cls h
        exact ⟨rfl, (inStep_argumentsOf imports arguments hcls.states).states⟩
  | methodCall s object method arguments =>
      have hobject := inStep_typesOf imports object h
      have harguments := inStep_argumentsOf imports arguments hobject.states
      simp only [typesOf]
      rw [hobject.answer, harguments.answer]
      exact (harguments.states.recordMember ..).noted s
  | property s _ object selector =>
      have hobject := (inStep_typesOf imports object h).states
      simp only [typesOf]
      split
      · exact hobject.noted (hobject.place.lookupProperty _) s
      · exact ⟨rfl, hobject⟩
  | classMember _ cls =>
      simp only [typesOf]
      exact ⟨rfl, (inStep_typesOf imports cls h).states⟩
  | construct _ _ _ => exact ⟨rfl, h⟩

theorem inStep_visitParts (imports : Imports) (es : List Expr) {base base' st st' : State}
    (h : InStep base base' st st') :
    InStep base base' (visitParts imports es st) (visitParts imports es st') := by
  cases es with
  | nil => exact h
  | cons e es =>
      simp only [visitParts]
      exact inStep_visitParts imports es (inStep_typesOf imports e h).states

theorem inStep_argumentsOf (imports : Imports) (es : List Expr) {base base' st st' : State}
    (h : InStep base base' st st') :
    Same base base' (argumentsOf imports es st) (argumentsOf imports es st') := by
  cases es with
  | nil => exact ⟨rfl, h⟩
  | cons e es =>
      by_cases hstring : ∃ s value, e = .string s value
      · obtain ⟨s, value, rfl⟩ := hstring
        have hrest := inStep_argumentsOf imports es h
        simp only [argumentsOf]
        exact ⟨congrArg (List.cons _) hrest.answer, hrest.states⟩
      · have he : ∀ s value, e ≠ .string s value := fun s value heq => hstring ⟨s, value, heq⟩
        have hfirst := inStep_typesOf imports e h
        have hrest := inStep_argumentsOf imports es hfirst.states
        rw [argumentsOf.eq_3 imports st e es he, argumentsOf.eq_3 imports st' e es he]
        exact ⟨by rw [hfirst.answer, hrest.answer], hrest.states⟩

/-- **A statement keeps two runs in step.** -/
theorem inStep_visit (imports : Imports) (s : Stmt) {base base' st st' : State}
    (h : InStep base base' st st') :
    InStep base base' (visit imports s st) (visit imports s st') := by
  cases s with
  | scope name body =>
      simp only [visit]
      exact h.rescope (inStep_visitAll imports body (h.inScope _))
  | imports _ => exact h
  | classLike kind name members =>
      have hmembers := scopesKept_visitMembers imports (some (st.declaredClass name.text)) members
        (ScopesKept.seeded h.place.scope imports (some (st.declaredClass name.text)) members)
      have hvisit := h.leaveClass hmembers
      cases kind with
      | interface => exact h
      | _ =>
          simp only [visit, ← h.place.declaredClass]
          exact hvisit
  | function _ parameters body =>
      simp only [visit]
      exact h.leaveScope (inStep_visitAll imports body
        (InStep.entered h.place imports (.refl {}) parameters))
  | evaluate _ values =>
      simp only [visit]
      exact inStep_visitParts imports values h
  | block body =>
      simp only [visit]
      exact inStep_visitAll imports body h
  | ifElse condition yes no =>
      simp only [visit]
      exact inStep_visitAll imports no
        (inStep_visitAll imports yes (inStep_typesOf imports condition h).states)
  | foreachLoop subject _ body =>
      simp only [visit]
      exact inStep_visitAll imports body (inStep_typesOf imports subject h).states
  | forLoop initial conditions increments body =>
      simp only [visit]
      exact inStep_visitParts imports increments (inStep_visitAll imports body
        (inStep_visitParts imports conditions (inStep_visitParts imports initial h)))
  | whileLoop condition body =>
      simp only [visit]
      exact inStep_visitAll imports body (inStep_typesOf imports condition h).states
  | doWhileLoop body condition =>
      simp only [visit]
      exact (inStep_typesOf imports condition (inStep_visitAll imports body h)).states
  | guarded body handlers =>
      simp only [visit]
      exact inStep_visitAll imports handlers (inStep_visitAll imports body h)
  | handler _ body =>
      simp only [visit]
      exact inStep_visitAll imports body h
  | switch subject cases =>
      simp only [visit]
      exact inStep_visitAll imports cases (inStep_typesOf imports subject h).states
  | case _ body =>
      simp only [visit]
      exact inStep_visitAll imports body h
  | inert _ _ => exact h

theorem inStep_visitAll (imports : Imports) (ss : List Stmt) {base base' st st' : State}
    (h : InStep base base' st st') :
    InStep base base' (visitAll imports ss st) (visitAll imports ss st') := by
  cases ss with
  | nil => exact h
  | cons s ss =>
      simp only [visitAll]
      exact inStep_visitAll imports ss (inStep_visit imports s h)

theorem scopesKept_visitMembers (imports : Imports) (path : Option String) (ms : List Member)
    {base base' st st' : State} (h : ScopesKept base base' st st') :
    ScopesKept base base' (visitMembers imports path ms st)
      (visitMembers imports path ms st') := by
  cases ms with
  | nil => exact h
  | cons m ms =>
      simp only [visitMembers]
      refine scopesKept_visitMembers imports path ms ?_
      cases m with
      | property _ _ => exact h
      | other => exact h
      | method _ isStatic parameters body =>
          simp only [visitMember]
          exact h.leaveScope (inStep_visitAll imports body
            (InStep.entered h.place imports (.refl _) parameters))

end

end Analysis

end MockLens
