/-
**Scope isolation: what the records of a declaration depend on.**

The analysis of a class-like depends on the imports and the namespace alone, that of a function also
on the class-like around it, and that of a closure also on `$this` and the variables it captures:
whatever else two states of the analysis hold, the same records are made in both.  A file that
consists of declarations is therefore analysed declaration by declaration, each in the namespace
that it stands in.

Main definitions:

* `Declares` — the statements that declare something: class-likes, functions, imports, and
  namespaces of such statements; tags and whatever else is not looked into may stand beside them;
* `placedDeclarations` — the class-likes and functions that are declared, each with its namespace;
* `alone` — the analysis of a statement by itself;
* `join` — the records of several analyses, one behind the other;
* `Isolated` — scope isolation, said of an import table.

Main results:

* `scopesKept_visit` — a declaration is visited without regard to variables;
* `alone_eq_join` — a statement that declares something is analysed declaration by declaration;
* `scopes_isolated` — **scopes are isolated**, under every import table.
-/
import MockLens.Document
import MockLens.Proofs.TwoRuns

set_option autoImplicit false

namespace MockLens

namespace Analysis

open Php (Expr Stmt Member Selector)

/-! ### Declarations in two runs -/

section Declarations

variable (imports : Imports) {base base' st st' : State}

theorem scopesKept_function (name : Php.Identifier) (parameters : List Php.Parameter)
    (body : List Stmt) (h : ScopesKept base base' st st') :
    ScopesKept base base' (visit imports (.function name parameters body) st)
      (visit imports (.function name parameters body) st') := by
  simp only [visit]
  exact h.leaveScope (inStep_visitAll imports body
    (InStep.entered h.place imports (.refl {}) parameters))

/-- The members of a class-like, visited in two runs that have no more in common than the
namespace. -/
theorem scopesKept_visitSeeded (path : Option String) (members : List Member)
    (h : st.scope = st'.scope) :
    ScopesKept (st.enterClass path) (st'.enterClass path)
      (visitMembers imports path members (seeded imports path members st))
      (visitMembers imports path members (seeded imports path members st')) :=
  scopesKept_visitMembers imports path members (.seeded h imports path members)

/-- A class-like records the same in two runs that have no more in common than the namespace. -/
theorem sameRecords_classLike (kind : DeclarationKind) (name : Php.Identifier)
    (members : List Member) (h : st.scope = st'.scope) :
    SameRecords st st' (visit imports (.classLike kind name members) st)
      (visit imports (.classLike kind name members) st') := by
  have hdeclared : st.declaredClass name.text = st'.declaredClass name.text := by
    rw [State.declaredClass, State.declaredClass, h]
  have hrecords :=
    (scopesKept_visitSeeded imports (some (st.declaredClass name.text)) members h).records
  cases kind with
  | interface => exact ⟨{}, by simp [visit], by simp [visit]⟩
  | _ =>
      simp only [visit, ← hdeclared]
      exact hrecords

theorem scopesKept_classLike (kind : DeclarationKind) (name : Php.Identifier)
    (members : List Member) (h : ScopesKept base base' st st') :
    ScopesKept base base' (visit imports (.classLike kind name members) st)
      (visit imports (.classLike kind name members) st') := by
  have hvisit := h.leaveClass
    (scopesKept_visitSeeded imports (some (st.declaredClass name.text)) members h.place.scope)
  cases kind with
  | interface => exact h
  | _ =>
      simp only [visit, ← h.place.declaredClass]
      exact hvisit

/-- A closure records the same where it captures the same. -/
theorem sameRecords_closure (span : Span) (parameters : List Php.Parameter)
    (captures : List String) (body : List Stmt) (h : SamePlace st st')
    (hcaptured : ∀ name, name = "$this" ∨ name ∈ captures → st.lookup name = st'.lookup name) :
    SameRecords st st' (typesOf imports (.closure span parameters captures body) st).2
      (typesOf imports (.closure span parameters captures body) st').2 := by
  have hinside := InStep.entered h imports (closureScope_alike hcaptured) parameters
  simp only [typesOf]
  exact (inStep_visitAll imports body hinside).records

end Declarations

/-! ### Files of declarations -/

/-- A statement that declares something: a class-like, a function, imports, or a namespace of such
statements.  Beside them may stand what is not looked into, as the tag does that opens a file. -/
inductive Declares : Stmt → Prop
  | classLike (kind : DeclarationKind) (name : Php.Identifier) (members : List Member) :
      Declares (.classLike kind name members)
  | function (name : Php.Identifier) (parameters : List Php.Parameter) (body : List Stmt) :
      Declares (.function name parameters body)
  | imports (group : Php.ImportGroup) : Declares (.imports group)
  | scope (name : Option String) {body : List Stmt} :
      (∀ s ∈ body, Declares s) → Declares (.scope name body)
  | inert (parts : List Expr) (body : List Stmt) : Declares (.inert parts body)

mutual

/-- Whether a statement declares something, or is not looked into. -/
def isDeclaration : Stmt → Bool
  | .classLike _ _ _ => true
  | .function _ _ _ => true
  | .imports _ => true
  | .scope _ body => areDeclarations body
  | .inert _ _ => true
  | _ => false

/-- Whether each of some statements declares something, or is not looked into. -/
def areDeclarations : List Stmt → Bool
  | [] => true
  | s :: ss => isDeclaration s && areDeclarations ss

end

theorem areDeclarations_iff {ss : List Stmt} :
    areDeclarations ss = true ↔ ∀ s ∈ ss, isDeclaration s = true := by
  induction ss with
  | nil => simp [areDeclarations]
  | cons s ss ih => rw [areDeclarations, Bool.and_eq_true, ih, List.forall_mem_cons]

mutual

theorem declares_of_isDeclaration (s : Stmt) (h : isDeclaration s = true) : Declares s := by
  cases s with
  | classLike kind name members => exact .classLike kind name members
  | function name parameters body => exact .function name parameters body
  | imports group => exact .imports group
  | scope name body =>
      rw [isDeclaration] at h
      exact .scope name (declares_of_areDeclarations body h)
  | inert parts body => exact .inert parts body
  | _ => cases h

theorem declares_of_areDeclarations (ss : List Stmt) (h : areDeclarations ss = true) :
    ∀ s ∈ ss, Declares s := by
  cases ss with
  | nil => simp
  | cons s ss =>
      rw [areDeclarations, Bool.and_eq_true] at h
      rw [List.forall_mem_cons]
      exact ⟨declares_of_isDeclaration s h.1, declares_of_areDeclarations ss h.2⟩

end

theorem isDeclaration_iff {s : Stmt} : isDeclaration s = true ↔ Declares s := by
  refine ⟨declares_of_isDeclaration s, fun h => ?_⟩
  induction h with
  | scope name _ ih =>
      rw [isDeclaration, areDeclarations_iff]
      exact ih
  | _ => rfl

instance : DecidablePred Declares := fun _ => decidable_of_iff _ isDeclaration_iff

mutual

/-- The class-likes and functions that a statement in namespace `scope` declares, each with its
namespace. -/
def placedDeclarations (scope : Option String) : Stmt → List (Option String × Stmt)
  | .classLike kind name members => [(scope, .classLike kind name members)]
  | .function name parameters body => [(scope, .function name parameters body)]
  | .scope name body => placedDeclarationsOf (name.filter fun n => n != "") body
  | _ => []

/-- The class-likes and functions that statements in namespace `scope` declare. -/
def placedDeclarationsOf (scope : Option String) : List Stmt → List (Option String × Stmt)
  | [] => []
  | s :: ss => placedDeclarations scope s ++ placedDeclarationsOf scope ss

end

theorem placedDeclarationsOf_eq_flatMap (scope : Option String) (ss : List Stmt) :
    placedDeclarationsOf scope ss = ss.flatMap (placedDeclarations scope) := by
  induction ss with
  | nil => rfl
  | cons s ss ih => rw [placedDeclarationsOf, ih, List.flatMap_cons]

/-- The records of several analyses, one behind the other. -/
def join (analyses : List Analysis) : Analysis := analyses.foldr (· ++ ·) {}

@[simp] theorem join_cons (a : Analysis) (analyses : List Analysis) :
    join (a :: analyses) = a ++ join analyses := rfl

theorem join_append (as bs : List Analysis) : join (as ++ bs) = join as ++ join bs := by
  induction as with
  | nil => exact (empty_append _).symm
  | cons a as ih => rw [List.cons_append, join_cons, join_cons, ih, append_assoc]

theorem join_flatMap {α : Type} (f : α → List Analysis) (as : List α) :
    join (as.flatMap f) = join (as.map fun a => join (f a)) := by
  induction as with
  | nil => rfl
  | cons a as ih => rw [List.flatMap_cons, join_append, ih, List.map_cons, join_cons]

variable (imports : Imports)

/-- The analysis of a statement by itself, in namespace `scope`. -/
def alone (scope : Option String) (s : Stmt) : Analysis :=
  (visit imports s { scope := scope }).records

theorem scopesKept_visitAll {ss : List Stmt}
    (hvisit : ∀ s ∈ ss, ∀ {base base' st st' : State}, ScopesKept base base' st st' →
      ScopesKept base base' (visit imports s st) (visit imports s st'))
    {base base' st st' : State} (h : ScopesKept base base' st st') :
    ScopesKept base base' (visitAll imports ss st) (visitAll imports ss st') := by
  induction ss generalizing st st' with
  | nil => exact h
  | cons s ss ih =>
      rw [List.forall_mem_cons] at hvisit
      simp only [visitAll]
      exact ih hvisit.2 (hvisit.1 h)

/-- **A declaration is visited without regard to variables.** -/
theorem scopesKept_visit {s : Stmt} (hs : Declares s) {base base' st st' : State}
    (h : ScopesKept base base' st st') :
    ScopesKept base base' (visit imports s st) (visit imports s st') := by
  induction hs generalizing base base' st st' with
  | classLike kind name members => exact scopesKept_classLike imports kind name members h
  | function name parameters body => exact scopesKept_function imports name parameters body h
  | imports _ => exact h
  | inert _ _ => exact h
  | scope name _ ih =>
      simp only [visit]
      exact h.rescope
        (scopesKept_visitAll imports (fun s hs _ _ _ _ hst => ih s hs hst) (h.inScope _))

/-- A state outside of all class-likes. -/
def FileLevel (st : State) : Prop := st.classes = [] ∧ st.properties = []

theorem FileLevel.samePlace {st st' : State} (h : FileLevel st) (h' : FileLevel st')
    (hscope : st.scope = st'.scope) : SamePlace st st' := by
  refine ⟨hscope, ?_, ?_⟩
  · rw [State.currentClass, State.currentClass, h.1, h'.1]
  · rw [h.2, h'.2]
    exact .none

theorem FileLevel.of_inside {st after : State} (h : FileLevel st) (hafter : Inside st after) :
    FileLevel after := by
  refine ⟨hafter.classes.trans h.1, ?_⟩
  have hcount := hafter.propertyCount
  rwa [h.2, List.length_nil, List.length_eq_zero_iff] at hcount

/-- The records of declarations are those that each of them has by itself. -/
theorem records_visitAll {ss : List Stmt} (hss : ∀ s ∈ ss, Declares s) {st : State}
    (hst : FileLevel st) :
    (visitAll imports ss st).records
      = st.records ++ join (ss.map (alone imports st.scope)) := by
  induction ss generalizing st with
  | nil => simp [visitAll, join]
  | cons s ss ih =>
      rw [List.forall_mem_cons] at hss
      have halone : SamePlace st { scope := st.scope } := hst.samePlace ⟨rfl, rfl⟩ rfl
      have hvisit := scopesKept_visit imports hss.1 (.refl halone)
      obtain ⟨new, hnew, hnew'⟩ := hvisit.records
      rw [visitAll, ih hss.2 (hst.of_inside hvisit.left), hvisit.left.scope, hnew, List.map_cons,
        join_cons, alone, hnew', empty_append, append_assoc]

/-- From a state that has a namespace and nothing else, the records are those of each statement
alone. -/
theorem records_visitAll_alone {ss : List Stmt} (hss : ∀ s ∈ ss, Declares s)
    (scope : Option String) :
    (visitAll imports ss { scope := scope }).records = join (ss.map (alone imports scope)) := by
  have hfile : FileLevel { scope := scope } := ⟨rfl, rfl⟩
  have hrecords := records_visitAll imports hss hfile
  rwa [empty_append] at hrecords

/-- Where each of some statements is analysed declaration by declaration, so are all in a row. -/
theorem join_placedDeclarationsOf {ss : List Stmt} {scope : Option String}
    (hss : ∀ s ∈ ss, alone imports scope s
      = join ((placedDeclarations scope s).map fun d => alone imports d.1 d.2)) :
    join (ss.map (alone imports scope))
      = join ((placedDeclarationsOf scope ss).map fun d => alone imports d.1 d.2) := by
  rw [placedDeclarationsOf_eq_flatMap, List.map_flatMap, join_flatMap]
  exact congrArg join (List.map_congr_left hss)

/-- **A statement that declares something is analysed declaration by declaration**, each in the
namespace that it stands in. -/
theorem alone_eq_join {s : Stmt} (hs : Declares s) (scope : Option String) :
    alone imports scope s
      = join ((placedDeclarations scope s).map fun d => alone imports d.1 d.2) := by
  induction hs generalizing scope with
  | classLike kind name members => exact (append_empty _).symm
  | function name parameters body => exact (append_empty _).symm
  | imports _ => rfl
  | inert _ _ => rfl
  | @scope name body hbody ih =>
      -- the body is analysed in a namespace of its own, with nothing on record yet
      rw [placedDeclarations, ← join_placedDeclarationsOf imports fun s hs => ih s hs _]
      exact records_visitAll_alone imports hbody _

/-! ### Scope isolation -/

/-- Scope isolation: which agreement of two states makes the analyses of a class-like, a function
and a closure record the same, and what follows for files and namespaces of declarations. -/
structure Isolated (imports : Imports) : Prop where
  classLike : ∀ kind name members (st st' : State), st.scope = st'.scope →
    SameRecords st st' (visit imports (.classLike kind name members) st)
      (visit imports (.classLike kind name members) st')
  function : ∀ name parameters body (st st' : State), SamePlace st st' →
    SameRecords st st' (visit imports (.function name parameters body) st)
      (visit imports (.function name parameters body) st')
  /-- Outside of all class-likes a function needs to agree on no more than the namespace. -/
  fileFunction : ∀ name parameters body (st st' : State), FileLevel st → FileLevel st' →
    st.scope = st'.scope →
      SameRecords st st' (visit imports (.function name parameters body) st)
        (visit imports (.function name parameters body) st')
  closure : ∀ span parameters captures body (st st' : State), SamePlace st st' →
    (∀ name, name = "$this" ∨ name ∈ captures → st.lookup name = st'.lookup name) →
      SameRecords st st' (typesOf imports (.closure span parameters captures body) st).2
        (typesOf imports (.closure span parameters captures body) st').2
  file : ∀ program, (∀ s ∈ program, Declares s) →
    ofStatements imports program = join (program.map fun s => ofStatements imports [s])
  scopeBody : ∀ name body, (∀ s ∈ body, Declares s) →
    ofStatements imports [.scope name body]
      = join (body.map fun s => ofStatements imports [.scope name [s]])
  /-- A program of declarations is analysed as its class-likes and functions are one by one, each in
  its namespace. -/
  declarations : ∀ program, (∀ s ∈ program, Declares s) →
    ofStatements imports program
      = join ((placedDeclarationsOf none program).map fun d => alone imports d.1 d.2)

/-- **Scopes are isolated.** -/
theorem scopes_isolated (imports : Imports) : Isolated imports where
  classLike kind name members _ _ h := sameRecords_classLike imports kind name members h
  function name parameters body _ _ h :=
    (scopesKept_function imports name parameters body (.refl h)).records
  fileFunction name parameters body _ _ hst hst' hscope :=
    (scopesKept_function imports name parameters body (.refl (hst.samePlace hst' hscope))).records
  closure span parameters captures body _ _ h hcaptured :=
    sameRecords_closure imports span parameters captures body h hcaptured
  file _ h := records_visitAll_alone imports h none
  scopeBody _ _ h := records_visitAll_alone imports h _
  declarations _ h := (records_visitAll_alone imports h none).trans <|
    join_placedDeclarationsOf imports fun s hs => alone_eq_join imports (h s hs) none

/-- A file with a function and a class, and one with both in a namespace. -/
theorem scopes_isolated_documents :
    let plain :=
      "<?php function f() \x7b new A; \x7d class B \x7b function g() \x7b new C; \x7d \x7d"
    let named := "<?php namespace N; function f() \x7b new A; \x7d class B \x7b \x7d"
    let analysisOf := fun text => (Document.ofText "file:///t.php" text).analysis
    let placed := fun (text : String) => placedDeclarationsOf none (Php.parseFile text.toList)
    let imports := fun text => (symbolsOfText "file:///t.php" text).imports
    (∀ text ∈ [plain, named],
      analysisOf text = join ((placed text).map fun d => alone (imports text) d.1 d.2)) ∧
    (placed plain).map Prod.fst = [none, none] ∧
    (placed named).map Prod.fst = [some "N", some "N"] ∧
    (analysisOf plain).typed.toList.map TypedExpr.types = [["\\A"], ["\\C"]] ∧
    (analysisOf named).typed.toList.map TypedExpr.types = [["\\N\\A"]] := by
  intro plain named analysisOf placed imports
  obtain ⟨hdeclares, hevaluated⟩ :
      (∀ text ∈ [plain, named], ∀ s ∈ Php.parseFile text.toList, Declares s) ∧
      (placed plain).map Prod.fst = [none, none] ∧
      (placed named).map Prod.fst = [some "N", some "N"] ∧
      (analysisOf plain).typed.toList.map TypedExpr.types = [["\\A"], ["\\C"]] ∧
      (analysisOf named).typed.toList.map TypedExpr.types = [["\\N\\A"]] := by
    decide +kernel
  refine ⟨fun text htext => ?_, hevaluated⟩
  exact (scopes_isolated (imports text)).declarations _ (hdeclares text htext)

end Analysis

end MockLens
