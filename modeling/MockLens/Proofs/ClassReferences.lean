/-
**Class references: what an analysis asks the imports.**

The walk of a program looks at the imports for one purpose alone, to say which class a name in the
source stands for: in `new`, in a static call and in a type hint.  Here these names are gathered
from a program tree, each with the namespace it stands in.  Two tables of imports under which each
of them stands for the same class lead to the same analysis.

Main definitions:

* `ClassRef` — a class name with the namespace it stands in;
* `refsOf`, `refsOfStmt`, `refsOfStmts` — the class references of a tree;
* `Imports.SameMeaning` — two tables that are not told apart by references.

Main results:

* `scope_typesOf`, `scope_visitAll` — a visit leaves the namespace as it was;
* `typesOf_congr`, `visit_congr`, `visitAll_congr` — **tables that give the references of a tree
  the same meaning lead to the same visit.**
-/
import MockLens.Proofs.TwoRuns
import MockLens.Symbols

set_option autoImplicit false

namespace MockLens

namespace Analysis

open Php (Expr Stmt Member Selector)

/-! ### References -/

/-- A class name with the namespace it stands in. -/
structure ClassRef where
  scope : Option String
  name : String
  deriving DecidableEq, Repr

/-- The references of a type hint. -/
def refsOfHint (scope : Option String) (hint : Php.Hint) : List ClassRef :=
  (Php.hintClassNames hint.text).map (ClassRef.mk scope)

/-- The references of the hints of parameters. -/
def refsOfParameters (scope : Option String) (parameters : List Php.Parameter) : List ClassRef :=
  parameters.flatMap fun p => p.hint.toList.flatMap (refsOfHint scope)

/-- The reference an expression is in the place of a class. -/
def refsOfClass (scope : Option String) : Expr → List ClassRef
  | .name _ text => [⟨scope, text⟩]
  | _ => []

mutual

/-- The references of an expression. -/
def refsOf (scope : Option String) : Expr → List ClassRef
  | .var _ _ => []
  | .string _ _ => []
  | .name _ _ => []
  | .classWord _ _ => []
  | .paren _ inner => refsOf scope inner
  | .assign _ _ target value => refsOf scope value ++ refsOf scope target
  | .conditional _ condition yes no =>
    refsOf scope condition ++ (refsOf scope yes ++ refsOf scope no)
  | .orElse _ condition no => refsOf scope condition ++ refsOf scope no
  | .operation _ _ parts => refsOfExprs scope parts
  | .arm _ _ body => refsOf scope body
  | .clone _ object => refsOf scope object
  | .new _ cls arguments => refsOfExprs scope arguments ++ refsOfClass scope cls
  | .newAnonymous _ arguments members => refsOfExprs scope arguments ++ refsOfMembers scope members
  | .closure _ parameters _ body => refsOfParameters scope parameters ++ refsOfStmts scope body
  | .arrow _ parameters body => refsOfParameters scope parameters ++ refsOf scope body
  | .call _ _ arguments => refsOfExprs scope arguments
  | .staticCall _ cls _ arguments =>
    refsOfClass scope cls ++ (refsOf scope cls ++ refsOfExprs scope arguments)
  | .methodCall _ object _ arguments => refsOf scope object ++ refsOfExprs scope arguments
  | .property _ _ object _ => refsOf scope object
  | .classMember _ cls => refsOf scope cls
  | .construct _ _ _ => []

/-- The references of expressions. -/
def refsOfExprs (scope : Option String) : List Expr → List ClassRef
  | [] => []
  | e :: es => refsOf scope e ++ refsOfExprs scope es

/-- The references of a statement that stands in namespace `scope`. -/
def refsOfStmt (scope : Option String) : Stmt → List ClassRef
  | .scope name body => refsOfStmts (namedScope name) body
  | .imports _ => []
  | .classLike .interface _ _ => []
  | .classLike _ _ members => refsOfMembers scope members
  | .function _ parameters body => refsOfParameters scope parameters ++ refsOfStmts scope body
  | .evaluate _ values => refsOfExprs scope values
  | .block body => refsOfStmts scope body
  | .ifElse condition yes no =>
    refsOf scope condition ++ (refsOfStmts scope yes ++ refsOfStmts scope no)
  | .foreachLoop subject _ body => refsOf scope subject ++ refsOfStmts scope body
  | .forLoop initial conditions increments body =>
    refsOfExprs scope initial ++ (refsOfExprs scope conditions ++
      (refsOfStmts scope body ++ refsOfExprs scope increments))
  | .whileLoop condition body => refsOf scope condition ++ refsOfStmts scope body
  | .doWhileLoop body condition => refsOfStmts scope body ++ refsOf scope condition
  | .guarded body handlers => refsOfStmts scope body ++ refsOfStmts scope handlers
  | .handler _ body => refsOfStmts scope body
  | .switch subject cases => refsOf scope subject ++ refsOfStmts scope cases
  | .case _ body => refsOfStmts scope body
  | .inert _ _ => []

/-- The references of statements. -/
def refsOfStmts (scope : Option String) : List Stmt → List ClassRef
  | [] => []
  | s :: ss => refsOfStmt scope s ++ refsOfStmts scope ss

/-- The references of a member of a class-like. -/
def refsOfMember (scope : Option String) : Member → List ClassRef
  | .property hint _ => hint.toList.flatMap (refsOfHint scope)
  | .method _ _ parameters body => refsOfParameters scope parameters ++ refsOfStmts scope body
  | .other => []

/-- The references of the members of a class-like. -/
def refsOfMembers (scope : Option String) : List Member → List ClassRef
  | [] => []
  | m :: ms => refsOfMember scope m ++ refsOfMembers scope ms

end

/-- Each of the references stands for the same class under both tables. -/
def SameMeaning (imports imports' : Imports) (refs : List ClassRef) : Prop :=
  ∀ r ∈ refs, imports.qualify r.scope r.name = imports'.qualify r.scope r.name

instance (imports imports' : Imports) (refs : List ClassRef) :
    Decidable (SameMeaning imports imports' refs) :=
  inferInstanceAs (Decidable (∀ r ∈ refs, _))

theorem sameMeaning_append {imports imports' : Imports} {refs more : List ClassRef} :
    SameMeaning imports imports' (refs ++ more) ↔
      SameMeaning imports imports' refs ∧ SameMeaning imports imports' more :=
  List.forall_mem_append

/-! ### The namespace of a visit -/

theorem InStep.refl (st : State) : InStep st st st st :=
  ⟨.refl ⟨rfl, rfl, by cases st.properties.head? <;> simp [Bindings.Alike.refl]⟩, .refl _⟩

theorem scope_typesOf (imports : Imports) (e : Expr) (st : State) :
    (typesOf imports e st).2.scope = st.scope :=
  (inStep_typesOf imports e (.refl st)).states.left.scope

theorem scope_visitParts (imports : Imports) (es : List Expr) (st : State) :
    (visitParts imports es st).scope = st.scope :=
  (inStep_visitParts imports es (.refl st)).left.scope

theorem scope_argumentsOf (imports : Imports) (es : List Expr) (st : State) :
    (argumentsOf imports es st).2.scope = st.scope :=
  (inStep_argumentsOf imports es (.refl st)).states.left.scope

theorem scope_visit (imports : Imports) (s : Stmt) (st : State) :
    (visit imports s st).scope = st.scope :=
  (inStep_visit imports s (.refl st)).left.scope

theorem scope_visitAll (imports : Imports) (ss : List Stmt) (st : State) :
    (visitAll imports ss st).scope = st.scope :=
  (inStep_visitAll imports ss (.refl st)).left.scope

/-! ### The walk under two tables -/

section

variable {imports imports' : Imports} {st : State}

theorem namedClass?_congr {cls : Expr}
    (h : SameMeaning imports imports' (refsOfClass st.scope cls)) :
    namedClass? imports st cls = namedClass? imports' st cls := by
  cases cls with
  | name place text =>
      have hname := h ⟨st.scope, text⟩ (List.mem_singleton_self _)
      simp only [namedClass?, State.classReference]
      rw [hname]
  | classWord place word => cases word <;> rfl
  | _ => rfl

theorem hintTypes_congr {hint : Php.Hint}
    (h : SameMeaning imports imports' (refsOfHint st.scope hint)) :
    st.hintTypes imports hint = st.hintTypes imports' hint := by
  refine List.filterMap_congr fun name hname => ?_
  have hmeaning := h ⟨st.scope, name⟩ (List.mem_map_of_mem hname)
  simp only [State.classReference]
  rw [hmeaning]

theorem bindParameters_congr (parameters : List Php.Parameter) :
    ∀ {st : State}, SameMeaning imports imports' (refsOfParameters st.scope parameters) →
      st.bindParameters imports parameters = st.bindParameters imports' parameters := by
  induction parameters with
  | nil =>
      intro st _
      simp only [State.bindParameters, List.foldl_nil]
  | cons p parameters ih =>
      intro st h
      rw [refsOfParameters, List.flatMap_cons, sameMeaning_append] at h
      obtain ⟨hfirst, hrest⟩ := h
      simp only [State.bindParameters, List.foldl_cons] at ih ⊢
      cases hhint : p.hint with
      | none => exact ih hrest
      | some hint =>
          have htypes : st.hintTypes imports hint = st.hintTypes imports' hint :=
            hintTypes_congr (by simpa [hhint] using hfirst)
          dsimp only
          rw [htypes]
          exact ih hrest

theorem scope_bindParameters (imports : Imports) (parameters : List Php.Parameter) (st : State) :
    (st.bindParameters imports parameters).scope = st.scope :=
  (InStep.bindParameters imports parameters (.refl st)).left.scope

theorem bindMember_congr {member : Member}
    (h : SameMeaning imports imports' (refsOfMember st.scope member)) :
    State.bindMember imports st member = State.bindMember imports' st member := by
  cases member with
  | method _ _ _ _ => rfl
  | other => rfl
  | property hint names =>
      cases hint with
      | none => rfl
      | some hint =>
          have hhint : SameMeaning imports imports' (refsOfHint st.scope hint) := by
            simpa [refsOfMember] using h
          -- each name is bound to the same types, and none of this changes the namespace
          simp only [State.bindMember]
          clear h
          induction names generalizing st with
          | nil => rfl
          | cons name names ih =>
              rw [List.foldl_cons, List.foldl_cons, hintTypes_congr hhint]
              refine ih ?_
              have hinside := (InStep.refl st).bindProperty (Text.trimStart (· == '$') name)
                (st.hintTypes imports' hint)
              rw [hinside.left.scope]
              exact hhint

theorem scope_bindMembers (imports : Imports) (members : List Member) (st : State) :
    (members.foldl (State.bindMember imports) st).scope = st.scope :=
  (ScopesKept.bindMembers imports members (.refl (InStep.refl st).place)).left.scope

theorem bindMembers_congr (members : List Member) :
    ∀ {st : State}, SameMeaning imports imports' (refsOfMembers st.scope members) →
      members.foldl (State.bindMember imports) st
        = members.foldl (State.bindMember imports') st := by
  induction members with
  | nil =>
      intro st _
      rw [List.foldl_nil, List.foldl_nil]
  | cons m members ih =>
      intro st h
      rw [refsOfMembers, sameMeaning_append] at h
      rw [List.foldl_cons, List.foldl_cons, bindMember_congr h.1]
      refine ih ?_
      have hscope := scope_bindMembers imports' [m] st
      rw [List.foldl_cons, List.foldl_nil] at hscope
      rw [hscope]
      exact h.2

end

mutual

/-- **An expression is visited alike** under tables that give its references the same meaning. -/
theorem typesOf_congr {imports imports' : Imports} (e : Expr) {st : State}
    (h : SameMeaning imports imports' (refsOf st.scope e)) :
    typesOf imports e st = typesOf imports' e st := by
  cases e with
  | var _ _ => rfl
  | string _ _ => rfl
  | name _ _ => rfl
  | classWord _ _ => rfl
  | paren _ inner =>
      simp only [typesOf]
      rw [typesOf_congr inner h]
  | assign _ plain target value =>
      rw [refsOf, sameMeaning_append] at h
      obtain ⟨hvalue, htarget⟩ := h
      have hbehind : typesOf imports target (typesOf imports' value st).2
          = typesOf imports' target (typesOf imports' value st).2 :=
        typesOf_congr target (by rw [scope_typesOf]; exact htarget)
      simp only [typesOf]
      rw [typesOf_congr value hvalue, hbehind]
  | conditional _ condition yes no =>
      rw [refsOf, sameMeaning_append, sameMeaning_append] at h
      obtain ⟨hcondition, hyes, hno⟩ := h
      simp only [typesOf]
      rw [typesOf_congr condition hcondition,
        typesOf_congr yes (by rw [scope_typesOf]; exact hyes),
        typesOf_congr no (by rw [scope_typesOf, scope_typesOf]; exact hno)]
  | orElse _ condition no =>
      rw [refsOf, sameMeaning_append] at h
      obtain ⟨hcondition, hno⟩ := h
      simp only [typesOf]
      rw [typesOf_congr condition hcondition,
        typesOf_congr no (by rw [scope_typesOf]; exact hno)]
  | operation _ _ parts =>
      simp only [typesOf]
      rw [visitParts_congr parts h]
  | arm _ _ body =>
      simp only [typesOf]
      rw [typesOf_congr body h]
  | clone _ object =>
      simp only [typesOf]
      rw [typesOf_congr object h]
  | new _ cls arguments =>
      rw [refsOf, sameMeaning_append] at h
      obtain ⟨harguments, hcls⟩ := h
      -- the class is looked up behind the arguments
      have hnamed : namedClass? imports (argumentsOf imports' arguments st).2 cls
          = namedClass? imports' (argumentsOf imports' arguments st).2 cls :=
        namedClass?_congr (by rw [scope_argumentsOf]; exact hcls)
      simp only [typesOf]
      rw [argumentsOf_congr arguments harguments, hnamed]
  | newAnonymous _ arguments members =>
      rw [refsOf, sameMeaning_append] at h
      obtain ⟨harguments, hmembers⟩ := h
      have hinside : SameMeaning imports imports'
          (refsOfMembers ((argumentsOf imports' arguments st).2.enterClass none).scope
            members) := by
        change SameMeaning _ _ (refsOfMembers (argumentsOf imports' arguments st).2.scope members)
        rw [scope_argumentsOf]
        exact hmembers
      simp only [typesOf]
      rw [argumentsOf_congr arguments harguments, bindMembers_congr members hinside,
        visitMembers_congr none members (by rw [scope_bindMembers]; exact hinside)]
  | closure _ parameters captures body =>
      rw [refsOf, sameMeaning_append] at h
      obtain ⟨hparameters, hbody⟩ := h
      have hinside : (st.enterScope (closureScope st captures)).bindParameters imports parameters
          = (st.enterScope (closureScope st captures)).bindParameters imports' parameters :=
        bindParameters_congr parameters hparameters
      simp only [typesOf]
      rw [hinside, visitAll_congr body (by rw [scope_bindParameters]; exact hbody)]
  | arrow _ parameters body =>
      rw [refsOf, sameMeaning_append] at h
      obtain ⟨hparameters, hbody⟩ := h
      have hinside : (st.enterScope st.innermost).bindParameters imports parameters
          = (st.enterScope st.innermost).bindParameters imports' parameters :=
        bindParameters_congr parameters hparameters
      simp only [typesOf]
      rw [hinside, typesOf_congr body (by rw [scope_bindParameters]; exact hbody)]
  | call _ _ arguments =>
      simp only [typesOf]
      rw [argumentsOf_congr arguments h]
  | staticCall _ cls method arguments =>
      rw [refsOf, sameMeaning_append, sameMeaning_append] at h
      obtain ⟨hnamed, hcls, harguments⟩ := h
      -- a class that is not named is visited, and the arguments behind it
      have hbehind : argumentsOf imports arguments (typesOf imports' cls st).2
          = argumentsOf imports' arguments (typesOf imports' cls st).2 :=
        argumentsOf_congr arguments (by rw [scope_typesOf]; exact harguments)
      simp only [typesOf]
      rw [namedClass?_congr hnamed, argumentsOf_congr arguments harguments,
        typesOf_congr cls hcls, hbehind]
  | methodCall _ object method arguments =>
      rw [refsOf, sameMeaning_append] at h
      obtain ⟨hobject, harguments⟩ := h
      simp only [typesOf]
      rw [typesOf_congr object hobject,
        argumentsOf_congr arguments (by rw [scope_typesOf]; exact harguments)]
  | property _ _ object _ =>
      simp only [typesOf]
      rw [typesOf_congr object h]
  | classMember _ cls =>
      simp only [typesOf]
      rw [typesOf_congr cls h]
  | construct _ _ _ => rfl

theorem visitParts_congr {imports imports' : Imports} (es : List Expr) {st : State}
    (h : SameMeaning imports imports' (refsOfExprs st.scope es)) :
    visitParts imports es st = visitParts imports' es st := by
  cases es with
  | nil => rfl
  | cons e es =>
      rw [refsOfExprs, sameMeaning_append] at h
      simp only [visitParts]
      rw [typesOf_congr e h.1, visitParts_congr es (by rw [scope_typesOf]; exact h.2)]

theorem argumentsOf_congr {imports imports' : Imports} (es : List Expr) {st : State}
    (h : SameMeaning imports imports' (refsOfExprs st.scope es)) :
    argumentsOf imports es st = argumentsOf imports' es st := by
  cases es with
  | nil => rfl
  | cons e es =>
      rw [refsOfExprs, sameMeaning_append] at h
      obtain ⟨hfirst, hrest⟩ := h
      by_cases hstring : ∃ s value, e = .string s value
      · obtain ⟨s, value, rfl⟩ := hstring
        simp only [argumentsOf]
        rw [argumentsOf_congr es hrest]
      · have he : ∀ s value, e ≠ .string s value := fun s value heq => hstring ⟨s, value, heq⟩
        rw [argumentsOf.eq_3 imports st e es he, argumentsOf.eq_3 imports' st e es he]
        rw [typesOf_congr e hfirst, argumentsOf_congr es (by rw [scope_typesOf]; exact hrest)]

/-- **A statement is visited alike** under tables that give its references the same meaning. -/
theorem visit_congr {imports imports' : Imports} (s : Stmt) {st : State}
    (h : SameMeaning imports imports' (refsOfStmt st.scope s)) :
    visit imports s st = visit imports' s st := by
  cases s with
  | scope name body =>
      simp only [visit]
      rw [visitAll_congr body (show SameMeaning _ _ (refsOfStmts (namedScope name) body) from h)]
  | imports _ => rfl
  | classLike kind name members =>
      cases kind with
      | interface => rfl
      | _ =>
          simp only [refsOfStmt] at h
          have hinside : SameMeaning imports imports'
              (refsOfMembers (st.enterClass (some (st.declaredClass name.text))).scope members) := h
          simp only [visit]
          rw [bindMembers_congr members hinside,
            visitMembers_congr _ members (by rw [scope_bindMembers]; exact hinside)]
  | function _ parameters body =>
      rw [refsOfStmt, sameMeaning_append] at h
      obtain ⟨hparameters, hbody⟩ := h
      have hinside : (st.enterScope {}).bindParameters imports parameters
          = (st.enterScope {}).bindParameters imports' parameters :=
        bindParameters_congr parameters hparameters
      simp only [visit]
      rw [hinside, visitAll_congr body (by rw [scope_bindParameters]; exact hbody)]
  | evaluate _ values =>
      simp only [visit]
      rw [visitParts_congr values h]
  | block body =>
      simp only [visit]
      rw [visitAll_congr body h]
  | ifElse condition yes no =>
      rw [refsOfStmt, sameMeaning_append, sameMeaning_append] at h
      obtain ⟨hcondition, hyes, hno⟩ := h
      simp only [visit]
      rw [typesOf_congr condition hcondition,
        visitAll_congr yes (by rw [scope_typesOf]; exact hyes),
        visitAll_congr no (by rw [scope_visitAll, scope_typesOf]; exact hno)]
  | foreachLoop subject _ body =>
      rw [refsOfStmt, sameMeaning_append] at h
      simp only [visit]
      rw [typesOf_congr subject h.1, visitAll_congr body (by rw [scope_typesOf]; exact h.2)]
  | forLoop initial conditions increments body =>
      rw [refsOfStmt, sameMeaning_append, sameMeaning_append, sameMeaning_append] at h
      obtain ⟨hinitial, hconditions, hbody, hincrements⟩ := h
      simp only [visit]
      rw [visitParts_congr initial hinitial,
        visitParts_congr conditions (by rw [scope_visitParts]; exact hconditions),
        visitAll_congr body (by rw [scope_visitParts, scope_visitParts]; exact hbody),
        visitParts_congr increments (by
          rw [scope_visitAll, scope_visitParts, scope_visitParts]
          exact hincrements)]
  | whileLoop condition body =>
      rw [refsOfStmt, sameMeaning_append] at h
      simp only [visit]
      rw [typesOf_congr condition h.1, visitAll_congr body (by rw [scope_typesOf]; exact h.2)]
  | doWhileLoop body condition =>
      rw [refsOfStmt, sameMeaning_append] at h
      simp only [visit]
      rw [visitAll_congr body h.1, typesOf_congr condition (by rw [scope_visitAll]; exact h.2)]
  | guarded body handlers =>
      rw [refsOfStmt, sameMeaning_append] at h
      simp only [visit]
      rw [visitAll_congr body h.1, visitAll_congr handlers (by rw [scope_visitAll]; exact h.2)]
  | handler _ body =>
      simp only [visit]
      rw [visitAll_congr body h]
  | switch subject cases =>
      rw [refsOfStmt, sameMeaning_append] at h
      simp only [visit]
      rw [typesOf_congr subject h.1, visitAll_congr cases (by rw [scope_typesOf]; exact h.2)]
  | case _ body =>
      simp only [visit]
      rw [visitAll_congr body h]
  | inert _ _ => rfl

theorem visitAll_congr {imports imports' : Imports} (ss : List Stmt) {st : State}
    (h : SameMeaning imports imports' (refsOfStmts st.scope ss)) :
    visitAll imports ss st = visitAll imports' ss st := by
  cases ss with
  | nil => rfl
  | cons s ss =>
      rw [refsOfStmts, sameMeaning_append] at h
      simp only [visitAll]
      rw [visit_congr s h.1, visitAll_congr ss (by rw [scope_visit]; exact h.2)]

theorem visitMembers_congr {imports imports' : Imports} (path : Option String) (ms : List Member)
    {st : State} (h : SameMeaning imports imports' (refsOfMembers st.scope ms)) :
    visitMembers imports path ms st = visitMembers imports' path ms st := by
  cases ms with
  | nil => rfl
  | cons m ms =>
      rw [refsOfMembers, sameMeaning_append] at h
      obtain ⟨hmember, hrest⟩ := h
      have hvisit : visitMember imports path m st = visitMember imports' path m st := by
        cases m with
        | property _ _ => rfl
        | other => rfl
        | method _ isStatic parameters body =>
            rw [refsOfMember, sameMeaning_append] at hmember
            obtain ⟨hparameters, hbody⟩ := hmember
            have hinside : (st.enterScope (methodScope path isStatic)).bindParameters imports
                parameters = (st.enterScope (methodScope path isStatic)).bindParameters imports'
                parameters := bindParameters_congr parameters hparameters
            simp only [visitMember]
            rw [hinside, visitAll_congr body (by rw [scope_bindParameters]; exact hbody)]
      have hscope := (scopesKept_visitMembers imports' path [m]
        (.refl (InStep.refl st).place)).left.scope
      simp only [visitMembers] at hscope ⊢
      rw [hvisit, visitMembers_congr path ms (by rw [hscope]; exact hrest)]

end

end Analysis

end MockLens
