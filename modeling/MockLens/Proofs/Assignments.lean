/-
**Assignments: where the candidate types of a variable come from.**

A variable has the candidate types of what was assigned to it last.  The walk of the analysis
(`MockLens/Analysis/Walk.lean`) goes through a scope in one direction, branches and bodies of loops
included, so at each place the assignments made before it in its scope form a list, and the last
entry for a variable decides.  But an entry is made by the plain assignment to a variable alone.  A
loop over a collection, a handler and a pattern assign to variables too, and of these the walk makes
no entry: behind them a variable still has the types of what was assigned to it before.

The list is gathered from the visits of a node that stay in its scope, each with the assignments
within it.  That it tells the types of every variable is shown in two steps: between two such visits
no variable changes, and what a visit changes itself is the entry it makes.

Main definitions:

* `Node.inScope` — the direct visits of a node that stay in its scope;
* `Node.writes`, `lastWrite` — the assignments within a node, and the last one to a variable;
* `SameScope` — a place in the scope of a node, with the assignments made on the way to it;
* `Assigning` — the constructs that assign to variables;
* `LastAssigned` — what the candidate types of variables are in a scope.

Main results:

* `Node.consecutive` — between the visits in its scope a node changes no variable;
* `Node.lookup_run`, `SameScope.lookup_eq` — the last assignment decides;
* `variables_last_assigned` — **what the candidate types of all variables are**;
* `reassigned_variable_keeps_types` — a loop, a handler and a pattern that change nothing.
-/
import MockLens.Proofs.ClassReferences
import MockLens.Proofs.Parameters
import MockLens.Proofs.ScopeIsolation

set_option autoImplicit false

namespace MockLens

namespace Analysis

open Php (Expr Stmt Member)

/-! ### Variables in acts that are no assignments -/

@[simp] theorem State.lookup_note (st : State) (span : Span) (types : Types) (name : String) :
    (st.note span types).lookup name = st.lookup name := by
  unfold State.note
  split <;> rfl

@[simp] theorem State.lookup_bindProperty (st : State) (property : String) (types : Types)
    (name : String) : (st.bindProperty property types).lookup name = st.lookup name := by
  unfold State.bindProperty
  split <;> rfl

@[simp] theorem lookup_noted (span : Span) (result : Types × State) (name : String) :
    (noted span result).2.lookup name = result.2.lookup name := by
  rw [noted, State.lookup_note]

@[simp] theorem lookup_recordStatic (st : State) (span : Span) (cls : Option String)
    (method : Php.Selector) (arguments : List CallSite.Argument) (literalSpan : Option Span)
    (name : String) :
    (recordStatic st span cls method arguments literalSpan).2.lookup name = st.lookup name := by
  unfold recordStatic
  split <;> rfl

@[simp] theorem lookup_recordMember (st : State) (span : Span) (receiver : Types)
    (method : Php.Selector) (arguments : List CallSite.Argument) (literalSpan : Option Span)
    (name : String) :
    (recordMember st span receiver method arguments literalSpan).2.lookup name
      = st.lookup name := by
  unfold recordMember
  split <;> rfl

/-- A state looks variables up in its scopes and nowhere else. -/
theorem State.lookup_congr {st st' : State} (h : st.scopes = st'.scopes) (name : String) :
    st.lookup name = st'.lookup name := by
  rw [State.lookup, State.lookup, State.innermost, State.innermost, h]

/-! ### Assignments within a node -/

/-- The types of the last assignment to a variable, if there is one; each assignment is a variable
with the candidate types of its new value. -/
def lastWrite (name : String) (writes : List (String × Types)) : Option Types :=
  writes.reverse.lookup name

theorem lastWrite_append (name : String) (writes later : List (String × Types)) :
    lastWrite name (writes ++ later) = (lastWrite name later).or (lastWrite name writes) := by
  rw [lastWrite, List.reverse_append, List.lookup_append]
  rfl

@[simp] theorem lastWrite_nil (name : String) : lastWrite name [] = none := rfl

@[simp] theorem lastWrite_singleton (name written : String) (types : Types) :
    lastWrite name [(written, types)] = if name = written then some types else none := by
  rw [lastWrite, List.reverse_singleton, List.lookup_cons, List.lookup_nil]
  by_cases hname : name = written
  · simp [hname]
  · simp [hname, beq_eq_false_iff_ne.2 hname]

section Definitions

variable (imports : Imports)

/-- The direct visits of an expression that stay in its scope: all but those of the bodies of
functions and methods. -/
def inScopeExpr : Expr → State → List (Node × State)
  | .newAnonymous _ arguments _, st => [(.arguments arguments, st)]
  | .closure _ _ _ _, _ => []
  | .arrow _ _ _, _ => []
  | e, st => belowExpr imports e st

/-- The direct visits of a statement that stay in its scope. -/
def inScopeStmt : Stmt → State → List (Node × State)
  | .classLike _ _ _, _ => []
  | .function _ _ _, _ => []
  | s, st => belowStmt imports s st

/-- The direct visits of a node that stay in its scope. -/
def Node.inScope : Node → State → List (Node × State)
  | .expr e, st => inScopeExpr imports e st
  | .stmt s, st => inScopeStmt imports s st
  | n, st => n.below imports st

/-- The assignment an expression makes itself: a plain one, to a variable. -/
def ownWrite : Expr → State → List (String × Types)
  | .assign _ plain target value, st =>
    match if plain then Target.of target else .other with
    | .variable name => [(name, (typesOf imports value st).1)]
    | _ => []
  | _, _ => []

/-- The assignment a node makes itself. -/
def Node.ownWrite : Node → State → List (String × Types)
  | .expr e, st => Analysis.ownWrite imports e st
  | _, _ => []

variable {imports}

theorem mem_below_of_mem_inScope {n : Node} {st : State} {v : Node × State}
    (h : v ∈ n.inScope imports st) : v ∈ n.below imports st := by
  cases n with
  | expr e =>
      cases e with
      | newAnonymous _ _ _ => exact List.mem_cons.2 (.inl (List.mem_singleton.1 h))
      | closure _ _ _ _ => cases h
      | arrow _ _ _ => cases h
      | _ => exact h
  | stmt s =>
      cases s with
      | classLike _ _ _ => cases h
      | function _ _ _ => cases h
      | _ => exact h
  | _ => exact h

variable (imports)

/-- The assignments within a node that are made in its scope, in the order of evaluation. -/
def Node.writes (n : Node) (st : State) : List (String × Types) :=
  ((n.inScope imports st).attach.flatMap fun v => v.1.1.writes v.1.2) ++ n.ownWrite imports st
termination_by sizeOf n
decreasing_by
  exact n.sizeOf_of_mem_below st v.1 (mem_below_of_mem_inScope v.2)

/-- The assignments of several visits, one behind the other. -/
def writesOf (visits : List (Node × State)) : List (String × Types) :=
  visits.flatMap fun v => v.1.writes imports v.2

theorem writesOf_cons (v : Node × State) (visits : List (Node × State)) :
    writesOf imports (v :: visits) = v.1.writes imports v.2 ++ writesOf imports visits := rfl

/-- The place `m` is visited in the state `st'` within the node `n` and in its scope, when the
assignments `done` have been made since `st`. -/
inductive SameScope : Node → State → List (String × Types) → Node → State → Prop
  | refl (n : Node) (st : State) : SameScope n st [] n st
  | step {n m k : Node} {st st' st'' : State} {before after : List (Node × State)}
      {done : List (String × Types)} :
      n.inScope imports st = before ++ (m, st') :: after → SameScope m st' done k st'' →
        SameScope n st (writesOf imports before ++ done) k st''

/-- Visits follow one another from one state to another, and between them no variable changes. -/
inductive Consecutive : State → List (Node × State) → State → Prop
  | stop {st st' : State} : (∀ name, st'.lookup name = st.lookup name) → Consecutive st [] st'
  | visit {n : Node} {visits : List (Node × State)} {st st' st'' : State} :
      (∀ name, st'.lookup name = st.lookup name) → Consecutive (n.run imports st') visits st'' →
        Consecutive st ((n, st') :: visits) st''

end Definitions

variable {imports : Imports}

theorem Node.writes_eq (n : Node) (st : State) :
    n.writes imports st = writesOf imports (n.inScope imports st) ++ n.ownWrite imports st := by
  rw [Node.writes, writesOf]
  conv_rhs => rw [← List.attach_map_subtype_val (n.inScope imports st), List.flatMap_map]

/-! ### Between the visits of a scope -/

theorem lookup_leaveScope {st inner : State} {bound : Bindings}
    (h : Inside (st.enterScope bound) inner) (name : String) :
    inner.leaveScope.lookup name = st.lookup name :=
  State.lookup_congr h.scopes_leaveScope name

/-- Behind a body that is visited in a scope of its own, the variables are as before it. -/
theorem lookup_behind_body (bound : Bindings) (parameters : List Php.Parameter) (body : List Stmt)
    (st : State) (name : String) :
    (visitAll imports body (entered imports bound parameters st)).leaveScope.lookup name
      = st.lookup name :=
  lookup_leaveScope (inStep_visitAll imports body
    (InStep.entered (InStep.refl st).place imports (.refl bound) parameters)).left name

/-- The visits of an expression follow one another, and what it changes behind them is its own
assignment. -/
theorem consecutive_expr (e : Expr) (st : State) :
    ∃ st', Consecutive imports st (inScopeExpr imports e st) st' ∧ ∀ name,
      (typesOf imports e st).2.lookup name
        = (lastWrite name (ownWrite imports e st)).getD (st'.lookup name) := by
  cases e with
  | assign s plain target value =>
      -- the one form that may change a variable itself, behind the visit of the value
      simp only [inScopeExpr, belowExpr, ownWrite, typesOf]
      generalize (if plain then Target.of target else .other) = change
      rcases change with name | name | _
      · refine ⟨_, .visit (fun _ => rfl) (.stop fun _ => rfl), fun other => ?_⟩
        by_cases hname : other = name <;> simp [Node.run, hname]
      · refine ⟨_, .visit (fun _ => rfl) (.stop fun _ => rfl), fun other => ?_⟩
        simp [Node.run]
      · refine ⟨_, .visit (fun _ => rfl) (.visit (fun _ => rfl) (.stop fun _ => rfl)),
          fun other => ?_⟩
        simp [Node.run]
  | var s name =>
      refine ⟨_, .stop fun other => ?_, fun _ => rfl⟩
      simp [typesOf]
  | string _ _ => exact ⟨_, .stop fun _ => rfl, fun _ => rfl⟩
  | name _ _ => exact ⟨_, .stop fun _ => rfl, fun _ => rfl⟩
  | classWord _ _ => exact ⟨_, .stop fun _ => rfl, fun _ => rfl⟩
  | paren s inner =>
      refine ⟨_, .visit (fun _ => rfl) (.stop fun other => ?_), fun _ => rfl⟩
      simp [typesOf, Node.run]
  | conditional s condition yes no =>
      refine ⟨_, .visit (fun _ => rfl) (.visit (fun _ => rfl) (.visit (fun _ => rfl)
        (.stop fun other => ?_))), fun _ => rfl⟩
      simp [typesOf, Node.run]
  | orElse s condition no =>
      refine ⟨_, .visit (fun _ => rfl) (.visit (fun _ => rfl) (.stop fun other => ?_)),
        fun _ => rfl⟩
      simp [typesOf, Node.run]
  | operation _ _ parts =>
      refine ⟨_, .visit (fun _ => rfl) (.stop fun other => ?_), fun _ => rfl⟩
      simp [typesOf, Node.run]
  | arm _ _ body =>
      refine ⟨_, .visit (fun _ => rfl) (.stop fun other => ?_), fun _ => rfl⟩
      simp [typesOf, Node.run]
  | clone s object =>
      refine ⟨_, .visit (fun _ => rfl) (.stop fun other => ?_), fun _ => rfl⟩
      simp [typesOf, Node.run]
  | new s cls arguments =>
      refine ⟨_, .visit (fun _ => rfl) (.stop fun other => ?_), fun _ => rfl⟩
      simp [typesOf, Node.run]
  | newAnonymous _ arguments members =>
      refine ⟨_, .visit (fun _ => rfl) (.stop fun other => ?_), fun _ => rfl⟩
      rw [typesOf]
      exact State.lookup_congr (scopesKept_visitMembers imports none members
        (.seeded rfl imports none members)).leftScopes other
  | closure _ parameters captures body =>
      refine ⟨_, .stop fun other => ?_, fun _ => rfl⟩
      rw [typesOf]
      exact lookup_behind_body (closureScope st captures) parameters body st other
  | arrow _ parameters body =>
      refine ⟨_, .stop fun other => ?_, fun _ => rfl⟩
      rw [typesOf]
      exact lookup_leaveScope (inStep_typesOf imports body
        (InStep.entered (InStep.refl st).place imports (.refl _) parameters)).states.left other
  | call _ _ arguments =>
      refine ⟨_, .visit (fun _ => rfl) (.stop fun other => ?_), fun _ => rfl⟩
      simp [typesOf, Node.run]
  | staticCall s cls method arguments =>
      simp only [inScopeExpr, belowExpr, ownWrite, typesOf]
      cases namedClass? imports st cls with
      | none =>
          exact ⟨_, .visit (fun _ => rfl) (.visit (fun _ => rfl) (.stop fun _ => rfl)),
            fun _ => rfl⟩
      | some path =>
          refine ⟨_, .visit (fun _ => rfl) (.stop fun other => ?_), fun _ => rfl⟩
          simp [Node.run]
  | methodCall s object method arguments =>
      refine ⟨_, .visit (fun _ => rfl) (.visit (fun _ => rfl) (.stop fun other => ?_)),
        fun _ => rfl⟩
      simp [typesOf, Node.run]
  | property s _ object selector =>
      refine ⟨_, .visit (fun _ => rfl) (.stop fun other => ?_), fun _ => rfl⟩
      rw [typesOf]
      split
      · simp [Node.run]
      · rfl
  | classMember _ cls =>
      refine ⟨_, .visit (fun _ => rfl) (.stop fun other => ?_), fun _ => rfl⟩
      simp [typesOf, Node.run]
  | construct _ _ _ => exact ⟨_, .stop fun _ => rfl, fun _ => rfl⟩

/-- The visits of a statement follow one another, and behind them it changes nothing. -/
theorem consecutive_stmt (s : Stmt) (st : State) :
    Consecutive imports st (inScopeStmt imports s st) (visit imports s st) := by
  cases s with
  | scope name body =>
      simp only [visit]
      exact .visit (fun _ => rfl) (.stop fun _ => rfl)
  | imports _ => exact .stop fun _ => rfl
  | classLike kind name members =>
      exact .stop fun other => State.lookup_congr
        (scopesKept_classLike imports kind name members (.refl (InStep.refl st).place)).leftScopes
        other
  | function _ parameters body =>
      simp only [visit]
      exact .stop fun other => lookup_behind_body {} parameters body st other
  | evaluate _ values =>
      simp only [visit]
      exact .visit (fun _ => rfl) (.stop fun _ => rfl)
  | block body =>
      simp only [visit]
      exact .visit (fun _ => rfl) (.stop fun _ => rfl)
  | ifElse condition yes no =>
      simp only [visit]
      exact .visit (fun _ => rfl) (.visit (fun _ => rfl) (.visit (fun _ => rfl)
        (.stop fun _ => rfl)))
  | foreachLoop subject _ body =>
      simp only [visit]
      exact .visit (fun _ => rfl) (.visit (fun _ => rfl) (.stop fun _ => rfl))
  | forLoop initial conditions increments body =>
      simp only [visit]
      exact .visit (fun _ => rfl) (.visit (fun _ => rfl) (.visit (fun _ => rfl)
        (.visit (fun _ => rfl) (.stop fun _ => rfl))))
  | whileLoop condition body =>
      simp only [visit]
      exact .visit (fun _ => rfl) (.visit (fun _ => rfl) (.stop fun _ => rfl))
  | doWhileLoop body condition =>
      simp only [visit]
      exact .visit (fun _ => rfl) (.visit (fun _ => rfl) (.stop fun _ => rfl))
  | guarded body handlers =>
      simp only [visit]
      exact .visit (fun _ => rfl) (.visit (fun _ => rfl) (.stop fun _ => rfl))
  | handler _ body =>
      simp only [visit]
      exact .visit (fun _ => rfl) (.stop fun _ => rfl)
  | switch subject cases =>
      simp only [visit]
      exact .visit (fun _ => rfl) (.visit (fun _ => rfl) (.stop fun _ => rfl))
  | case _ body =>
      simp only [visit]
      exact .visit (fun _ => rfl) (.stop fun _ => rfl)
  | inert _ _ => exact .stop fun _ => rfl

/-- **Between the visits in its scope a node changes no variable**, and behind them it changes what
it assigns itself. -/
theorem Node.consecutive (n : Node) (st : State) :
    ∃ st', Consecutive imports st (n.inScope imports st) st' ∧ ∀ name,
      (n.run imports st).lookup name
        = (lastWrite name (n.ownWrite imports st)).getD (st'.lookup name) := by
  cases n with
  | expr e => exact consecutive_expr e st
  | stmt s => exact ⟨_, consecutive_stmt s st, fun _ => rfl⟩
  | parts es =>
      cases es with
      | nil => exact ⟨_, .stop fun _ => rfl, fun _ => rfl⟩
      | cons e es =>
          exact ⟨_, .visit (fun _ => rfl) (.visit (fun _ => rfl) (.stop fun _ => rfl)),
            fun _ => rfl⟩
  | stmts ss =>
      cases ss with
      | nil => exact ⟨_, .stop fun _ => rfl, fun _ => rfl⟩
      | cons s ss =>
          exact ⟨_, .visit (fun _ => rfl) (.visit (fun _ => rfl) (.stop fun _ => rfl)),
            fun _ => rfl⟩
  | arguments es =>
      cases es with
      | nil => exact ⟨_, .stop fun _ => rfl, fun _ => rfl⟩
      | cons e es =>
          -- a string literal is passed over, any other argument is visited
          cases e with
          | string _ _ => exact ⟨_, .visit (fun _ => rfl) (.stop fun _ => rfl), fun _ => rfl⟩
          | _ =>
              exact ⟨_, .visit (fun _ => rfl) (.visit (fun _ => rfl) (.stop fun _ => rfl)),
                fun _ => rfl⟩

/-! ### The last assignment decides -/

/-- Behind consecutive visits a variable has the types of the last assignment within them, if each
of them leaves it so. -/
theorem Consecutive.lookup_eq {visits : List (Node × State)} {st st' : State}
    (h : Consecutive imports st visits st') (name : String)
    (hvisits : ∀ v ∈ visits, (v.1.run imports v.2).lookup name
      = (lastWrite name (v.1.writes imports v.2)).getD (v.2.lookup name)) :
    st'.lookup name = (lastWrite name (writesOf imports visits)).getD (st.lookup name) := by
  induction h with
  | stop hsame => exact hsame name
  | @visit n visits st st' st'' hsame _ ih =>
      obtain ⟨hfirst, hrest⟩ := List.forall_mem_cons.1 hvisits
      rw [ih hrest, hfirst, hsame name, writesOf_cons, lastWrite_append]
      cases lastWrite name (writesOf imports visits) <;> rfl

/-- Up to one of them, consecutive visits are consecutive. -/
theorem Consecutive.before {before after : List (Node × State)} {n : Node} {st st' st'' : State}
    (h : Consecutive imports st (before ++ (n, st') :: after) st'') :
    Consecutive imports st before st' := by
  induction before generalizing st with
  | nil =>
      cases h with
      | visit hsame _ => exact .stop hsame
  | cons v before ih =>
      cases h with
      | visit hsame hrest => exact .visit hsame (ih hrest)

/-- **Behind a node, the last assignment within it decides about a variable.** -/
theorem Node.lookup_run (n : Node) (st : State) (name : String) :
    (n.run imports st).lookup name
      = (lastWrite name (n.writes imports st)).getD (st.lookup name) := by
  induction n, st using Node.induction imports with
  | h n st ih =>
      obtain ⟨st', hvisits, hown⟩ := @Node.consecutive imports n st
      have hbefore := hvisits.lookup_eq name fun v hv => ih v (mem_below_of_mem_inScope hv)
      rw [hown name, hbefore, Node.writes_eq, lastWrite_append]
      cases lastWrite name (n.ownWrite imports st) <;> rfl

/-- **At a place in a scope, the last assignment on the way to it decides about a variable.** -/
theorem SameScope.lookup_eq {n m : Node} {st st' : State} {done : List (String × Types)}
    (h : SameScope imports n st done m st') (name : String) :
    st'.lookup name = (lastWrite name done).getD (st.lookup name) := by
  induction h with
  | refl => rfl
  | @step n m k st st' st'' before after done hsplit _ ih =>
      obtain ⟨_, hvisits, -⟩ := @Node.consecutive imports n st
      rw [hsplit] at hvisits
      have hbefore := hvisits.before.lookup_eq name fun v _ => v.1.lookup_run v.2 name
      rw [ih, hbefore, lastWrite_append]
      cases lastWrite name done <;> rfl

/-! ### The constructs that assign -/

mutual

/-- The variables an expression stands for in the place where something is assigned to it: a
variable itself, the elements of a pattern, of a pair in it the value, and what is referred to. -/
def targetNames : Expr → List String
  | .var _ name => [name]
  | .operation _ .array items => targetNamesAmong items
  | .operation _ .pair (_ :: value) => targetNamesAmong value
  | .operation _ (.unary "&") items => targetNamesAmong items
  | .construct _ .destructuring items => targetNamesAmong items
  | _ => []

/-- The variables that several expressions stand for. -/
def targetNamesAmong : List Expr → List String
  | [] => []
  | e :: es => targetNames e ++ targetNamesAmong es

end

/-- A pattern to take a value apart with, in brackets or written as a list. -/
def pattern (bracketed : Bool) (place : Span) (items : List Expr) : Expr :=
  if bracketed then .operation place .array items else .construct place .destructuring items

/-- The constructs that assign to variables. -/
inductive Assigning where
  /-- A plain assignment to a variable. -/
  | plain (span place : Span) (name : String) (value : Expr)
  /-- A plain assignment to a pattern. -/
  | apart (span place : Span) (bracketed : Bool) (items : List Expr) (value : Expr)
  /-- A loop over a collection, which assigns to its targets in front of its body. -/
  | loop (subject : Expr) (targets : List Expr) (body : List Stmt)
  /-- A handler, which assigns to its variable in front of its body. -/
  | handler (name : String) (body : List Stmt)

namespace Assigning

/-- The construct as it stands in a program. -/
def node : Assigning → Node
  | plain span place name value => .expr (.assign span true (.var place name) value)
  | apart span place bracketed items value =>
    .expr (.assign span true (pattern bracketed place items) value)
  | loop subject targets body => .stmt (.foreachLoop subject targets body)
  | handler name body => .stmt (.handler (some name) body)

/-- The variables it assigns to. -/
def names : Assigning → List String
  | plain _ _ name _ => [name]
  | apart _ place bracketed items _ => targetNames (pattern bracketed place items)
  | loop _ targets _ => targetNamesAmong targets
  | handler name _ => [name]

/-- What the walk visits for it before the assignment is made. -/
def evaluated (imports : Imports) : Assigning → State → List (Node × State)
  | plain _ _ _ value, st => [(.expr value, st)]
  | apart _ place bracketed items value, st =>
    [(.expr value, st), (.expr (pattern bracketed place items), (typesOf imports value st).2)]
  | loop subject _ _, st => [(.expr subject, st)]
  | handler _ _, _ => []

/-- The state behind the assignment: for a loop or a handler the one its body is visited in. -/
def behind (imports : Imports) : Assigning → State → State
  | loop subject _ _, st => (typesOf imports subject st).2
  | handler _ _, st => st
  | c, st => c.node.run imports st

/-- What the analysis knows of the values that are assigned: the types of the value of a plain
assignment to a variable, and nothing of an element, a key or an exception. -/
def newTypes (imports : Imports) : Assigning → State → Types
  | plain _ _ _ value, st => (typesOf imports value st).1
  | _, _ => []

/-- The construct is a plain assignment to a variable. -/
def IsPlain : Assigning → Prop
  | plain _ _ _ _ => True
  | _ => False

/-- Behind the assignment, each variable that is assigned to has the types of its new value. -/
def Replaces (imports : Imports) (c : Assigning) (st : State) : Prop :=
  ∀ name ∈ c.names, (c.behind imports st).lookup name = c.newTypes imports st

variable {c : Assigning} {st : State}

/-- The body of a loop or a handler is visited in the state behind the assignment. -/
theorem inScope_node {body : List Stmt}
    (h : (∃ subject targets, c = loop subject targets body) ∨ ∃ name, c = handler name body) :
    c.node.inScope imports st
      = c.evaluated imports st ++ [(.stmts body, c.behind imports st)] := by
  obtain ⟨subject, targets, rfl⟩ | ⟨name, rfl⟩ := h
  · rfl
  · rfl

/-- Behind a plain assignment, its variable has the types of the value, and any other variable what
it has behind the value. -/
theorem lookup_behind_plain (span place : Span) (name : String) (value : Expr) (st : State)
    (other : String) :
    ((plain span place name value).behind imports st).lookup other
      = if other = name then (typesOf imports value st).1
        else (typesOf imports value st).2.lookup other := by
  show (typesOf imports (.assign span true (.var place name) value) st).2.lookup other = _
  simp [typesOf, Target.of]

/-- Any other construct leaves all variables as they are behind what is visited for it. -/
theorem lookup_behind (hc : ¬ c.IsPlain) (st : State) (name : String) :
    (c.behind imports st).lookup name
      = (lastWrite name (writesOf imports (c.evaluated imports st))).getD (st.lookup name) := by
  cases c with
  | plain _ _ _ _ => exact absurd trivial hc
  | apart span place bracketed items value =>
      have hother : Target.of (pattern bracketed place items) = .other := by
        cases bracketed <;> rfl
      have hwrites : (apart span place bracketed items value).node.writes imports st
          = writesOf imports ((apart span place bracketed items value).evaluated imports st) := by
        rw [Node.writes_eq]
        simp [node, Node.inScope, inScopeExpr, belowExpr, Node.ownWrite, ownWrite, hother,
          evaluated]
      rw [← hwrites]
      exact Node.lookup_run _ st name
  | loop subject targets body =>
      have hsubject := @Node.lookup_run imports (.expr subject) st name
      rw [evaluated, writesOf_cons, writesOf, List.flatMap_nil, List.append_nil]
      exact hsubject
  | handler _ _ => rfl

/-- **A construct replaces the types of its variables** if it is a plain assignment to a variable,
or if nothing was known of them anyway. -/
theorem replaces_iff (c : Assigning) (st : State) :
    c.Replaces imports st ↔ c.IsPlain ∨ ∀ name ∈ c.names,
      (lastWrite name (writesOf imports (c.evaluated imports st))).getD (st.lookup name) = [] := by
  by_cases hc : c.IsPlain
  · refine iff_of_true ?_ (.inl hc)
    cases c with
    | plain span place name value =>
        intro other hother
        obtain rfl := List.mem_singleton.1 hother
        rw [lookup_behind_plain, if_pos rfl]
        rfl
    | _ => exact hc.elim
  · have hnew : c.newTypes imports st = [] := by
      cases c with
      | plain _ _ _ _ => exact absurd trivial hc
      | _ => rfl
    rw [Replaces, hnew]
    simp only [lookup_behind hc, hc, false_or]

end Assigning

/-! ### Last assignments -/

/-- What the candidate types of variables are in a scope. -/
structure LastAssigned (imports : Imports) : Prop where
  /-- At each place in a scope, a variable has the types of the last plain assignment to it on the
  way there or, before the first one, those it has where the scope begins. -/
  within : ∀ n st done m st', SameScope imports n st done m st' → ∀ name,
    st'.lookup name = (lastWrite name done).getD (st.lookup name)
  /-- So it has behind a node. -/
  behind : ∀ (n : Node) (st : State) (name : String), (n.run imports st).lookup name
    = (lastWrite name (n.writes imports st)).getD (st.lookup name)
  /-- A plain assignment gives its variable the types of the value and no other variable any. -/
  plain : ∀ span place name value st other,
    ((Assigning.plain span place name value).behind imports st).lookup other
      = if other = name then (typesOf imports value st).1
        else (typesOf imports value st).2.lookup other
  /-- At no later place in the scope the variable has types from before it. -/
  forgotten : ∀ n st earlier name types later m st',
    SameScope imports n st (earlier ++ (name, types) :: later) m st' →
      st'.lookup name = (lastWrite name later).getD types
  /-- The body of a loop or a handler is visited right behind the assignment it begins with. -/
  body : ∀ (c : Assigning) body st,
    ((∃ subject targets, c = .loop subject targets body) ∨ ∃ name, c = .handler name body) →
      c.node.inScope imports st
        = c.evaluated imports st ++ [(.stmts body, c.behind imports st)]
  /-- A loop, a handler or a pattern leaves all variables as they are behind what is visited for
  it. -/
  kept : ∀ c : Assigning, ¬ c.IsPlain → ∀ st name, (c.behind imports st).lookup name
    = (lastWrite name (writesOf imports (c.evaluated imports st))).getD (st.lookup name)
  /-- So the variables that one of these assigns to are without types behind it exactly if they are
  without types before. -/
  replaced : ∀ (c : Assigning) st, c.Replaces imports st ↔ c.IsPlain ∨ ∀ name ∈ c.names,
    (lastWrite name (writesOf imports (c.evaluated imports st))).getD (st.lookup name) = []

/-- **What the candidate types of all variables are.** -/
theorem variables_last_assigned (imports : Imports) : LastAssigned imports where
  within _ _ _ _ _ h := h.lookup_eq
  behind n st name := n.lookup_run st name
  plain := Assigning.lookup_behind_plain
  forgotten n st earlier name types later m st' h := by
    rw [h.lookup_eq name, lastWrite_append, ← List.singleton_append, lastWrite_append,
      lastWrite_singleton, if_pos rfl]
    cases lastWrite name later <;> rfl
  body _ _ _ h := Assigning.inScope_node h
  kept _ hc := Assigning.lookup_behind hc
  replaced := Assigning.replaces_iff

/-- **A variable keeps its types through a loop, a handler and a pattern that assign to it**; a plain
assignment replaces them. -/
theorem reassigned_variable_keeps_types :
    let outer := ({} : State).bind "$x" ["\\Foo"]
    let x : Expr := .var ⟨0, 0⟩ "$x"
    let receivers (text : String) :=
      (Document.ofText "file:///t.php" text).analysis.calls.toList.map Call.receiverTypes
    ¬ (Assigning.loop (.var ⟨0, 0⟩ "$rows") [x] []).Replaces {} outer ∧
      ¬ (Assigning.handler "$x" []).Replaces {} outer ∧
      ¬ (Assigning.apart ⟨0, 0⟩ ⟨0, 0⟩ true [x] (.var ⟨0, 0⟩ "$rows")).Replaces {} outer ∧
      receivers "<?php $x = new Foo; foreach ($rows as $x) \x7b $x->bar(); \x7d" = [["\\Foo"]] ∧
      receivers "<?php $x = new Foo; try \x7b\x7d catch (E $x) \x7b $x->bar(); \x7d" = [["\\Foo"]] ∧
      receivers "<?php $x = new Foo; [$x] = $rows; $x->bar();" = [["\\Foo"]] ∧
      receivers "<?php $x = new Foo; $x = $rows; $x->bar();" = [[]] := by
  refine ⟨?_, ?_, ?_, by decide +kernel, by decide +kernel, by decide +kernel, by decide +kernel⟩
  all_goals
    intro hreplaces
    exact absurd (hreplaces "$x" List.mem_cons_self) (by decide)

end Analysis

end MockLens
