/-
**Stacks: what a visit leaves as it found it.**

The state of the walk (`MockLens/Analysis/State.lean`) holds a stack of class-likes, one of property
tables and one of scopes, and the forms of the language push and pop at different levels of the tree.
Whatever a visit does in between, behind it the stacks are as high as before and the same below
their top, and what was on record stays on record.  A function and a class-like leave even the top
of the scopes alone; of an anonymous class this holds behind its arguments, which are evaluated in
the scope around it.

It follows that a program, begun with one scope, is never without one, so that a binding always
changes a scope that exists: the empty scope that `State.bind` would start from otherwise is never
needed.

Main definitions:

* `BindsIn` — the states in which a visit binds a variable;
* `StackDiscipline` — what holds of the stacks, said of an import table.

Main results:

* `Node.inside` — a visit changes the stacks at their top alone;
* `Reaches.scopes_ne_nil`, `Visited.scopes_ne_nil` — no visit below a state with a scope is without
  one, and so none in the analysis of a file;
* `stacks_disciplined` — the stacks are disciplined under every import table.
-/
import MockLens.Proofs.ClassReferences
import MockLens.Proofs.Courses
import MockLens.Proofs.Parameters

set_option autoImplicit false

namespace MockLens

namespace Analysis

open Php (Expr Stmt Member Selector)

variable {imports : Imports}

/-! ### The top of the stacks -/

/-- **A visit changes the stacks at their top alone.** -/
theorem Node.inside (n : Node) (st : State) : Inside st (n.run imports st) := by
  cases n with
  | expr e => exact (inStep_typesOf imports e (.refl st)).states.left
  | parts es => exact (inStep_visitParts imports es (.refl st)).left
  | arguments es => exact (inStep_argumentsOf imports es (.refl st)).states.left
  | stmt s => exact (inStep_visit imports s (.refl st)).left
  | stmts ss => exact (inStep_visitAll imports ss (.refl st)).left

theorem inside_entered (bound : Bindings) (parameters : List Php.Parameter) (st : State) :
    Inside (st.enterScope bound) (entered imports bound parameters st) :=
  (InStep.entered (InStep.refl st).place imports (.refl bound) parameters).left

theorem Inside.scopes_ne_nil {base st : State} (h : Inside base st) (hbase : base.scopes ≠ []) :
    st.scopes ≠ [] := by
  have hcount := h.scopeCount hbase
  have hpos := List.length_pos_iff.2 hbase
  exact List.length_pos_iff.1 (by omega)

theorem scopes_entered_ne_nil (bound : Bindings) (parameters : List Php.Parameter) (st : State) :
    (entered imports bound parameters st).scopes ≠ [] :=
  (inside_entered bound parameters st).scopes_ne_nil (List.cons_ne_nil _ _)

/-- A class-like, visited from a state, leaves the scopes and the properties as they are. -/
theorem leaveClass_visitMembers (imports : Imports) (path : Option String)
    (members : List Member) (st : State) :
    (visitMembers imports path members (seeded imports path members st)).leaveClass.scopes
        = st.scopes ∧
      (visitMembers imports path members (seeded imports path members st)).leaveClass.properties
        = st.properties := by
  have hmembers := scopesKept_visitMembers imports path members
    (ScopesKept.seeded (rfl : st.scope = st.scope) imports path members)
  exact ⟨hmembers.leftScopes, hmembers.left.properties_leaveClass⟩

theorem scopes_function (form : FunctionForm) (parameters : List Php.Parameter) (st : State) :
    (form.run imports parameters st).scopes = st.scopes := by
  rw [form.run_eq]
  have hbody : Inside (entered imports (form.start st) parameters st)
      (form.runBody imports (entered imports (form.start st) parameters st)) := by
    cases form with
    | function _ body => exact Node.inside (.stmts body) _
    | method _ _ _ body => exact Node.inside (.stmts body) _
    | closure _ _ body => exact Node.inside (.stmts body) _
    | arrow _ body => exact Node.inside (.expr body) _
  exact hbody.scopes.trans (inside_entered _ parameters st).scopes

theorem stacks_classLike (kind : DeclarationKind) (name : Php.Identifier) (members : List Member)
    (st : State) :
    (visit imports (.classLike kind name members) st).scopes = st.scopes ∧
      (visit imports (.classLike kind name members) st).properties = st.properties := by
  have hmembers :=
    leaveClass_visitMembers imports (some (st.declaredClass name.text)) members st
  cases kind with
  | interface => exact ⟨rfl, rfl⟩
  | _ =>
      rw [visit]
      · exact hmembers
      · simp

/-! ### Scopes below a visit -/

theorem scopes_belowMembers_ne_nil (path : Option String) (members : List Member) :
    ∀ st, ∀ v ∈ belowMembers imports path members st, v.2.scopes ≠ [] := by
  induction members with
  | nil => simp [belowMembers]
  | cons m members ih =>
      intro st
      cases m with
      | method _ _ _ _ =>
          rw [belowMembers]
          exact List.forall_mem_cons.2 ⟨scopes_entered_ne_nil _ _ st, ih _⟩
      | property _ _ => exact ih st
      | other => exact ih st

theorem Node.scopes_run_ne_nil (n : Node) {st : State} (hst : st.scopes ≠ []) :
    (n.run imports st).scopes ≠ [] :=
  (n.inside st).scopes_ne_nil hst

theorem scopes_typesOf_ne_nil (e : Expr) {st : State} (hst : st.scopes ≠ []) :
    (typesOf imports e st).2.scopes ≠ [] :=
  Node.scopes_run_ne_nil (.expr e) hst

theorem scopes_visitParts_ne_nil (es : List Expr) {st : State} (hst : st.scopes ≠ []) :
    (visitParts imports es st).scopes ≠ [] :=
  Node.scopes_run_ne_nil (.parts es) hst

theorem scopes_visitAll_ne_nil (ss : List Stmt) {st : State} (hst : st.scopes ≠ []) :
    (visitAll imports ss st).scopes ≠ [] :=
  Node.scopes_run_ne_nil (.stmts ss) hst

theorem scopes_belowExpr_ne_nil (e : Expr) {st : State} (hst : st.scopes ≠ []) :
    ∀ v ∈ belowExpr imports e st, v.2.scopes ≠ [] := by
  cases e with
  | assign _ plain target value =>
      rw [belowExpr]
      split <;> simp [hst, scopes_typesOf_ne_nil]
  | newAnonymous _ arguments members =>
      exact List.forall_mem_cons.2 ⟨hst, scopes_belowMembers_ne_nil _ members _⟩
  | staticCall _ cls _ arguments =>
      rw [belowExpr]
      split <;> simp [hst, scopes_typesOf_ne_nil]
  | _ => simp [belowExpr, hst, scopes_typesOf_ne_nil, scopes_entered_ne_nil]

theorem scopes_belowStmt_ne_nil (s : Stmt) {st : State} (hst : st.scopes ≠ []) :
    ∀ v ∈ belowStmt imports s st, v.2.scopes ≠ [] := by
  cases s with
  | classLike kind name members =>
      cases kind with
      | interface => simp [belowStmt]
      | _ => exact scopes_belowMembers_ne_nil _ members _
  | forLoop initial conditions increments body =>
      have hbegun : (visitParts imports initial st).scopes ≠ [] :=
        scopes_visitParts_ne_nil initial hst
      have htested : (visitParts imports conditions (visitParts imports initial st)).scopes ≠ [] :=
        scopes_visitParts_ne_nil conditions hbegun
      simp [belowStmt, hst, hbegun, htested, scopes_visitAll_ne_nil]
  | _ =>
      simp [belowStmt, hst, scopes_typesOf_ne_nil, scopes_visitAll_ne_nil, scopes_entered_ne_nil]

theorem Node.scopes_below_ne_nil (n : Node) {st : State} (hst : st.scopes ≠ []) :
    ∀ v ∈ n.below imports st, v.2.scopes ≠ [] := by
  cases n with
  | expr e => exact scopes_belowExpr_ne_nil e hst
  | stmt s => exact scopes_belowStmt_ne_nil s hst
  | parts es => cases es <;> simp [below, hst, scopes_typesOf_ne_nil]
  | stmts ss =>
      cases ss with
      | nil => simp [below]
      | cons s ss => simpa [below, run, hst] using Node.scopes_run_ne_nil (.stmt s) hst
  | arguments es =>
      cases es with
      | nil => simp [below]
      | cons e es =>
          -- a string literal is passed over, any other argument is visited
          cases e <;> simp [below, hst, scopes_typesOf_ne_nil]

/-- **No visit below a state with a scope is without one**, neither where it begins nor where it
ends. -/
theorem Reaches.scopes_ne_nil {root n : Node} {start st : State}
    (h : Reaches imports root start n st) (hstart : start.scopes ≠ []) :
    st.scopes ≠ [] ∧ (n.run imports st).scopes ≠ [] :=
  h.holds (P := fun s => s.scopes ≠ [])
    (fun _ _ hst => ⟨Node.scopes_run_ne_nil _ hst, Node.scopes_below_ne_nil _ hst⟩) hstart

/-- The analysis of a file is never without a scope. -/
theorem Visited.scopes_ne_nil {program : List Stmt} {e : Expr} {st : State}
    (h : Visited imports program e st) :
    st.scopes ≠ [] ∧ (typesOf imports e st).2.scopes ≠ [] :=
  Reaches.scopes_ne_nil h (List.cons_ne_nil _ _)

/-! ### Bindings -/

/-- The states in which a visit binds a variable: an assignment behind its value, and a function
behind the parameters in front of one that has a hint. -/
inductive BindsIn (imports : Imports) : Node → State → State → Prop
  | assigned (span place : Span) (name : String) (value : Expr) (st : State) :
      BindsIn imports (.expr (.assign span true (.var place name) value)) st
        (typesOf imports value st).2
  | parameter {n body : Node} {st st' : State} {bound : Bindings}
      {before after : List Php.Parameter} {p : Php.Parameter} {hint : Php.Hint} :
      (body, entered imports bound (before ++ p :: after) st') ∈ n.below imports st →
        p.hint = some hint → BindsIn imports n st (entered imports bound before st')

theorem BindsIn.scopes_ne_nil {n : Node} {st here : State} (h : BindsIn imports n st here)
    (hst : st.scopes ≠ []) : here.scopes ≠ [] := by
  cases h with
  | assigned span place name value st => exact Node.scopes_run_ne_nil (.expr value) hst
  | parameter _ _ => exact scopes_entered_ne_nil _ _ _

/-! ### The discipline -/

/-- What holds of the stacks under an import table. -/
structure StackDiscipline (imports : Imports) : Prop where
  /-- Behind every visit the namespace and the class-likes are the ones from before it, and the
  scopes and the properties differ at most in the innermost level. -/
  frame : ∀ (n : Node) (st : State), Inside st (n.run imports st)
  /-- What was on record stays on record. -/
  records : ∀ (n : Node) (st : State), Continues st.records (n.run imports st).records
  /-- A function, a method, a closure and a short function leave all scopes as they are. -/
  function : ∀ (form : FunctionForm) (parameters : List Php.Parameter) (st : State),
    (form.run imports parameters st).scopes = st.scopes
  /-- A class-like leaves all scopes and all properties as they are. -/
  classLike : ∀ (kind : DeclarationKind) (name : Php.Identifier) (members : List Member)
    (st : State),
    (visit imports (.classLike kind name members) st).scopes = st.scopes ∧
      (visit imports (.classLike kind name members) st).properties = st.properties
  /-- An anonymous class leaves them as they are behind its arguments. -/
  anonymous : ∀ (span : Span) (arguments : List Expr) (members : List Member) (st : State),
    (typesOf imports (.newAnonymous span arguments members) st).2.scopes
        = (argumentsOf imports arguments st).2.scopes ∧
      (typesOf imports (.newAnonymous span arguments members) st).2.properties
        = (argumentsOf imports arguments st).2.properties
  /-- From a state with a scope, no visit is ever without one. -/
  nonempty : ∀ {root n : Node} {start st : State}, start.scopes ≠ [] →
    Reaches imports root start n st → st.scopes ≠ [] ∧ (n.run imports st).scopes ≠ []
  /-- Every binding changes the innermost of the scopes there are. -/
  bound : ∀ {root n : Node} {start st here : State}, start.scopes ≠ [] →
    Reaches imports root start n st → BindsIn imports n st here →
      ∃ innermost outer, here.scopes = innermost :: outer ∧
        ∀ name types, (here.bind name types).scopes = innermost.set name types :: outer

/-- **The stacks are disciplined** under every import table. -/
theorem stacks_disciplined (imports : Imports) : StackDiscipline imports where
  frame := Node.inside
  records := Node.run_continues
  function := scopes_function
  classLike := stacks_classLike
  anonymous span arguments members st := by
    rw [typesOf]
    exact leaveClass_visitMembers imports none members (argumentsOf imports arguments st).2
  nonempty hstart h := h.scopes_ne_nil hstart
  bound {_ _ _ _ here} hstart h hbinds := by
    have hhere := hbinds.scopes_ne_nil (h.scopes_ne_nil hstart).1
    obtain ⟨innermost, outer, hscopes⟩ := List.exists_cons_of_ne_nil hhere
    exact ⟨innermost, outer, hscopes, fun name types => by
      simp [State.bind, State.innermost, hscopes]⟩

/-- **An anonymous class binds variables and properties around it** if its arguments do: behind it,
neither the scopes nor the properties need be the ones from before it. -/
theorem anonymous_class_binds_around :
    let foo : Expr := .new ⟨21, 28⟩ (.name ⟨25, 28⟩ "Foo") []
    let this : Expr := .property ⟨16, 18⟩ false (.var ⟨16, 18⟩ "$this") (.named ⟨"x", ⟨16, 18⟩⟩)
    let anonymous (target : Expr) : Expr :=
      .newAnonymous ⟨6, 31⟩ [.assign ⟨16, 28⟩ true target foo] []
    let outer : State := ({} : State).enterClass (some "\\C")
    outer.scopes ≠ [] ∧
      (typesOf {} (anonymous (.var ⟨16, 18⟩ "$x")) outer).2.scopes ≠ outer.scopes ∧
      (typesOf {} (anonymous this) outer).2.properties ≠ outer.properties ∧
      ((Document.ofText "file:///t.php" "<?php new class($x = new Foo) {}; $x;").analysis.typedAt
        34).map TypedExpr.types = some ["\\Foo"] := by
  decide +kernel

end Analysis

end MockLens
