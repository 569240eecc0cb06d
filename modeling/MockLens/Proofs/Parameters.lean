/-
**Parameters: what a body knows of them.**

The body of a function, method, closure or short function starts with the variables that its form
takes over from the place around it: a function none, a method only `$this`, a closure `$this` and
the variables it captures, a short function all of them.  The parameters are bound on top of these,
but only those that have a hint (`MockLens/Analysis/State.lean`).  So a parameter with a hint hides
the variable of its name, also where the hint names no class, and one without a hint does not: the
body finds the types of the outer variable under the name of the parameter.

Main definitions:

* `FunctionForm` — the four forms, with the scope each starts from and the run of its body;
* `hintFor` — the hint that decides about a variable;
* `ownTypes`, `Shadows` — the classes of the hint of a parameter, and parameters that have no other
  candidate types in the body;
* `ParameterTypes` — what the body of a form knows of parameters.

Main results:

* `lookup_entered` — the candidate types of a variable on entry to a body;
* `shadows_iff` — parameters have the types of their hints alone if the others are unknown before;
* `parameters_in_bodies` — **what the bodies of all forms know of parameters**;
* `unhinted_parameter_keeps_outer_types` — a parameter of a short function that hides nothing.
-/
import MockLens.Document
import MockLens.Proofs.States
import MockLens.Proofs.Visits

set_option autoImplicit false

namespace MockLens

namespace Analysis

open Php (Expr Stmt Member)

/-! ### Bindings one after the other -/

@[simp] theorem State.lookup_bind (st : State) (name other : String) (types : Types) :
    (st.bind name types).lookup other = if other = name then types else st.lookup other :=
  Bindings.lookup_set st.innermost name other types

@[simp] theorem State.hintTypes_bind (st : State) (name : String) (types : Types)
    (imports : Imports) (hint : Php.Hint) :
    (st.bind name types).hintTypes imports hint = st.hintTypes imports hint := rfl

/-- The hint that decides about a variable: the last one that is written for a parameter of its
name. -/
def hintFor (name : String) (parameters : List Php.Parameter) : Option Php.Hint :=
  parameters.reverse.findSome? fun p => if p.variableName = name then p.hint else none

theorem hintFor_cons (name : String) (p : Php.Parameter) (parameters : List Php.Parameter) :
    hintFor name (p :: parameters)
      = (hintFor name parameters).or (if p.variableName = name then p.hint else none) := by
  rw [hintFor, List.reverse_cons, List.findSome?_append]
  simp [hintFor]

theorem hintFor_eq_none {name : String} {parameters : List Php.Parameter}
    (h : ∀ p ∈ parameters, p.variableName = name → p.hint = none) :
    hintFor name parameters = none := by
  rw [hintFor, List.findSome?_eq_none_iff]
  intro p hp
  split
  · exact h p (List.mem_reverse.1 hp) ‹_›
  · rfl

/-- Where no two parameters have the same name, each is decided by its own hint. -/
theorem hintFor_eq_hint {parameters : List Php.Parameter}
    (hdistinct : (parameters.map Php.Parameter.variableName).Nodup) {p : Php.Parameter}
    (hp : p ∈ parameters) : hintFor p.variableName parameters = p.hint := by
  induction parameters with
  | nil => cases hp
  | cons q parameters ih =>
      rw [List.map_cons, List.nodup_cons] at hdistinct
      obtain ⟨hq, hrest⟩ := hdistinct
      rw [hintFor_cons]
      rcases List.mem_cons.1 hp with rfl | hp
      · have hothers : hintFor p.variableName parameters = none :=
          hintFor_eq_none fun other hother hname =>
            absurd (List.mem_map.2 ⟨other, hother, hname⟩) hq
        rw [hothers, if_pos rfl, Option.none_or]
      · have hne : q.variableName ≠ p.variableName := fun hname =>
          hq (List.mem_map.2 ⟨p, hp, hname.symm⟩)
        rw [ih hrest hp, if_neg hne, Option.or_none]

theorem State.bindParameters_cons (imports : Imports) (p : Php.Parameter)
    (parameters : List Php.Parameter) (st : State) :
    st.bindParameters imports (p :: parameters)
      = (match p.hint with
        | some hint => st.bind p.variableName (st.hintTypes imports hint)
        | none => st).bindParameters imports parameters := rfl

theorem State.lookup_bindParameters (imports : Imports) (parameters : List Php.Parameter)
    (st : State) (name : String) :
    (st.bindParameters imports parameters).lookup name
      = ((hintFor name parameters).map (st.hintTypes imports)).getD (st.lookup name) := by
  induction parameters generalizing st with
  | nil => rfl
  | cons p parameters ih =>
      -- a later parameter of the same name has the last word
      rw [State.bindParameters_cons, ih, hintFor_cons]
      cases hlater : hintFor name parameters with
      | some later => cases p.hint <;> rfl
      | none =>
          cases hhint : p.hint with
          | none => simp
          | some hint =>
              by_cases hname : p.variableName = name
              · simp [hname]
              · simp [hname, Ne.symm hname]

/-! ### On entry to a body -/

/-- **What a variable is on entry to a body**: the classes of the last hint for it or, without any
hint, whatever it is in the scope the body starts from. -/
theorem lookup_entered (imports : Imports) (bound : Bindings) (parameters : List Php.Parameter)
    (st : State) (name : String) :
    (entered imports bound parameters st).lookup name
      = ((hintFor name parameters).map (st.hintTypes imports)).getD (bound.lookup name) :=
  State.lookup_bindParameters imports parameters (st.enterScope bound) name

/-- The classes a parameter is declared to be of: those its hint names, and none without a hint. -/
def ownTypes (imports : Imports) (st : State) (p : Php.Parameter) : Types :=
  (p.hint.map (st.hintTypes imports)).getD []

/-- On entry to a body that starts from the scope `bound`, each parameter has the classes of its own
hint as its candidate types, and no others. -/
def Shadows (imports : Imports) (bound : Bindings) (parameters : List Php.Parameter)
    (st : State) : Prop :=
  ∀ p ∈ parameters,
    (entered imports bound parameters st).lookup p.variableName = ownTypes imports st p

/-- **Parameters hide what is around the body exactly if nothing is known there of those that have
no hint.** -/
theorem shadows_iff {parameters : List Php.Parameter}
    (hdistinct : (parameters.map Php.Parameter.variableName).Nodup) (imports : Imports)
    (bound : Bindings) (st : State) :
    Shadows imports bound parameters st
      ↔ ∀ p ∈ parameters, p.hint = none → bound.lookup p.variableName = [] := by
  refine forall₂_congr fun p hp => ?_
  rw [lookup_entered, hintFor_eq_hint hdistinct hp, ownTypes]
  cases p.hint <;> simp

/-! ### The four forms -/

/-- The forms that have parameters; a method belongs to the class-like `path`. -/
inductive FunctionForm where
  | function (name : Php.Identifier) (body : List Stmt)
  | method (path : Option String) (name : Php.Identifier) (isStatic : Bool) (body : List Stmt)
  | closure (span : Span) (captures : List String) (body : List Stmt)
  | arrow (span : Span) (body : Expr)

namespace FunctionForm

/-- The scope the body starts from. -/
def start : FunctionForm → State → Bindings
  | function _ _, _ => {}
  | method path _ isStatic _, _ => methodScope path isStatic
  | closure _ captures _, st => closureScope st captures
  | arrow _ _, st => st.innermost

/-- The visit of the form. -/
def run (imports : Imports) (parameters : List Php.Parameter) : FunctionForm → State → State
  | function name body, st => visit imports (.function name parameters body) st
  | method path name isStatic body, st =>
    visitMember imports path (.method name isStatic parameters body) st
  | closure span captures body, st =>
    (typesOf imports (.closure span parameters captures body) st).2
  | arrow span body, st => (typesOf imports (.arrow span parameters body) st).2

/-- The visit of the body. -/
def runBody (imports : Imports) : FunctionForm → State → State
  | function _ body, st => visitAll imports body st
  | method _ _ _ body, st => visitAll imports body st
  | closure _ _ body, st => visitAll imports body st
  | arrow _ body, st => (typesOf imports body st).2

/-- The body takes a variable over from the place around it. -/
def TakesOver : FunctionForm → String → Prop
  | function _ _, _ => False
  | method _ _ _ _, _ => False
  | closure _ captures _, name => name = "$this" ∨ name ∈ captures
  | arrow _ _, _ => True

/-- What a method knows of `$this` by itself. -/
def thisTypes : FunctionForm → Types
  | method path _ false _ => path.toList
  | _ => []

/-- A form is visited by visiting its body once the parameters are bound. -/
theorem run_eq (imports : Imports) (parameters : List Php.Parameter) (form : FunctionForm)
    (st : State) :
    form.run imports parameters st
      = (form.runBody imports (entered imports (form.start st) parameters st)).leaveScope := by
  cases form <;> simp only [run, runBody, start, visit, visitMember, typesOf, entered]

theorem lookup_start_of_takesOver {form : FunctionForm} {name : String} (h : form.TakesOver name)
    (st : State) : (form.start st).lookup name = st.lookup name := by
  cases form with
  | function _ _ => exact h.elim
  | method _ _ _ _ => exact h.elim
  | closure _ captures _ =>
      have hcaptured : name = "$this" ∨ name ∈ captures := h
      rw [start, closureScope_lookup, if_pos hcaptured]
  | arrow _ _ => rfl

theorem lookup_start_of_not_takesOver {form : FunctionForm} {name : String}
    (h : ¬ form.TakesOver name) (st : State) :
    (form.start st).lookup name = if name = "$this" then form.thisTypes else [] := by
  cases form with
  | function _ _ => simp [start, thisTypes]
  | method path _ isStatic _ =>
      rw [start, methodScope_lookup]
      cases isStatic <;> simp [thisTypes]
  | closure _ captures _ =>
      have hcaptured : ¬ (name = "$this" ∨ name ∈ captures) := h
      rw [start, closureScope_lookup, if_neg hcaptured]
      simp [thisTypes]
  | arrow _ _ => exact absurd trivial h

end FunctionForm

/-! ### Parameters in bodies -/

/-- What the body of a form, visited in state `st`, knows of parameters. -/
structure ParameterTypes (imports : Imports) (form : FunctionForm)
    (parameters : List Php.Parameter) (st : State) : Prop where
  /-- The body is visited right behind the binding of the parameters. -/
  entry : form.run imports parameters st
    = (form.runBody imports (entered imports (form.start st) parameters st)).leaveScope
  /-- A variable for which a hint is written has the classes of the last such hint, whatever is
  around the form. -/
  hinted : ∀ name hint, hintFor name parameters = some hint →
    (entered imports (form.start st) parameters st).lookup name = st.hintTypes imports hint
  /-- Any other variable has the types it has around the form if the form takes it over. -/
  takenOver : ∀ name, hintFor name parameters = none → form.TakesOver name →
    (entered imports (form.start st) parameters st).lookup name = st.lookup name
  /-- Otherwise it has none; but a method knows `$this`. -/
  fresh : ∀ name, hintFor name parameters = none → ¬ form.TakesOver name →
    (entered imports (form.start st) parameters st).lookup name
      = if name = "$this" then form.thisTypes else []
  /-- Distinct parameters have the classes of their own hints alone exactly if those without a hint
  neither have types around the form that it takes over nor are what a method knows by itself. -/
  shadows : (parameters.map Php.Parameter.variableName).Nodup →
    (Shadows imports (form.start st) parameters st ↔
      ∀ p ∈ parameters, p.hint = none →
        (form.TakesOver p.variableName → st.lookup p.variableName = []) ∧
          (p.variableName = "$this" → form.thisTypes = []))

/-- **What the bodies of all forms know of parameters.** -/
theorem parameters_in_bodies (imports : Imports) (form : FunctionForm)
    (parameters : List Php.Parameter) (st : State) :
    ParameterTypes imports form parameters st where
  entry := form.run_eq imports parameters st
  hinted name hint h := by rw [lookup_entered, h, Option.map_some, Option.getD_some]
  takenOver name h htakes := by
    rw [lookup_entered, h, Option.map_none, Option.getD_none,
      FunctionForm.lookup_start_of_takesOver htakes]
  fresh name h htakes := by
    rw [lookup_entered, h, Option.map_none, Option.getD_none,
      FunctionForm.lookup_start_of_not_takesOver htakes]
  shadows hdistinct := by
    rw [shadows_iff hdistinct]
    refine forall₂_congr fun p _ => imp_congr_right fun _ => ?_
    by_cases htakes : form.TakesOver p.variableName
    · -- a form that takes variables over knows nothing of `$this` by itself
      have hthis : form.thisTypes = [] := by
        cases form with
        | method _ _ _ _ => exact htakes.elim
        | _ => rfl
      simp [FunctionForm.lookup_start_of_takesOver htakes, htakes, hthis]
    · simp [FunctionForm.lookup_start_of_not_takesOver htakes, htakes]

/-- **A parameter without a hint hides nothing in a short function**: its body finds the class of
the outer variable under the name of the parameter.  With a hint that names no class it finds
none. -/
theorem unhinted_parameter_keeps_outer_types :
    let outer := ({} : State).bind "$x" ["\\Foo"]
    let receivers (text : String) :=
      (Document.ofText "file:///t.php" text).analysis.calls.toList.map Call.receiverTypes
    ¬ Shadows {} outer.innermost [⟨"$x", none⟩] outer ∧
      receivers "<?php $x = new Foo; fn($x) => $x->bar();" = [["\\Foo"]] ∧
      receivers "<?php $x = new Foo; fn(int $x) => $x->bar();" = [[]] := by
  refine ⟨?_, by decide +kernel, by decide +kernel⟩
  intro hshadows
  have hparameter := hshadows ⟨"$x", none⟩ (by simp)
  exact absurd hparameter (by decide)

end Analysis

end MockLens
