/-
**Visits: what the walk reaches, and in which state.**

The walk of `MockLens/Analysis/Walk.lean` is seven functions that call one another.  This module
gathers what they walk through into one type of nodes, and says for each node which others it
visits directly, each with the state in which that happens.  An induction over visits then replaces
the induction over seven functions, and a property of everything that is analysed can be said of
every visit below the whole program.

Main definitions:

* `Node`, `Node.run` — what is walked through, and the state behind it;
* `Node.below` — the direct visits of a node;
* `Reaches`, `Visited` — the visits below a node, and those of a program.

Main results:

* `Node.induction` — what holds of a visit when it holds of its direct visits holds of all;
* `Reaches.of_below`, `Reaches.trans` — visits below visits.
-/
import MockLens.Analysis.Walk

set_option autoImplicit false

namespace MockLens

namespace Analysis

open Php (Expr Stmt Member Selector)

/-! ### Nodes -/

/-- What is walked through: an expression, expressions for what they do, arguments, a statement, and
statements. -/
inductive Node where
  | expr (e : Expr)
  | parts (es : List Expr)
  | arguments (es : List Expr)
  | stmt (s : Stmt)
  | stmts (ss : List Stmt)

variable (imports : Imports)

/-- The state behind a node. -/
def Node.run : Node → State → State
  | .expr e, st => (typesOf imports e st).2
  | .parts es, st => visitParts imports es st
  | .arguments es, st => (argumentsOf imports es st).2
  | .stmt s, st => visit imports s st
  | .stmts ss, st => visitAll imports ss st

/-- The state in which the members of a class-like are visited: its properties have the classes of
their hints. -/
def seeded (path : Option String) (members : List Member) (st : State) : State :=
  members.foldl (State.bindMember imports) (st.enterClass path)

/-- The state in which the body of a function is visited. -/
def entered (bound : Bindings) (parameters : List Php.Parameter) (st : State) : State :=
  (st.enterScope bound).bindParameters imports parameters

/-- The visits of the bodies of methods, among the members of the class-like `path`. -/
def belowMembers (path : Option String) : List Member → State → List (Node × State)
  | [], _ => []
  | .method name isStatic parameters body :: ms, st =>
    (.stmts body, entered imports (methodScope path isStatic) parameters st) ::
      belowMembers path ms (visitMember imports path (.method name isStatic parameters body) st)
  | _ :: ms, st => belowMembers path ms st

/-- The direct visits of an expression, each with the state it happens in. -/
def belowExpr : Expr → State → List (Node × State)
  | .var _ _, _ => []
  | .string _ _, _ => []
  | .name _ _, _ => []
  | .classWord _ _, _ => []
  | .paren _ inner, st => [(.expr inner, st)]
  | .assign _ plain target value, st =>
    (.expr value, st) ::
      match if plain then Target.of target else .other with
      | .other => [(.expr target, (typesOf imports value st).2)]
      | _ => []
  | .conditional _ condition yes no, st =>
    let between := (typesOf imports condition st).2
    [(.expr condition, st), (.expr yes, between), (.expr no, (typesOf imports yes between).2)]
  | .orElse _ condition no, st =>
    [(.expr condition, st), (.expr no, (typesOf imports condition st).2)]
  | .operation _ _ parts, st => [(.parts parts, st)]
  | .arm _ _ body, st => [(.expr body, st)]
  | .clone _ object, st => [(.expr object, st)]
  | .new _ _ arguments, st => [(.arguments arguments, st)]
  | .newAnonymous _ arguments members, st =>
    (.arguments arguments, st) ::
      belowMembers imports none members
        (seeded imports none members (argumentsOf imports arguments st).2)
  | .closure _ parameters captures body, st =>
    [(.stmts body, entered imports (closureScope st captures) parameters st)]
  | .arrow _ parameters body, st => [(.expr body, entered imports st.innermost parameters st)]
  | .call _ _ arguments, st => [(.arguments arguments, st)]
  | .staticCall _ cls _ arguments, st =>
    match namedClass? imports st cls with
    | some _ => [(.arguments arguments, st)]
    | none => [(.expr cls, st), (.arguments arguments, (typesOf imports cls st).2)]
  | .methodCall _ object _ arguments, st =>
    [(.expr object, st), (.arguments arguments, (typesOf imports object st).2)]
  | .property _ _ object _, st => [(.expr object, st)]
  | .classMember _ cls, st => [(.expr cls, st)]
  | .construct _ _ _, _ => []

/-- The direct visits of a statement. -/
def belowStmt : Stmt → State → List (Node × State)
  | .scope name body, st => [(.stmts body, { st with scope := name.filter (fun n => n != "") })]
  | .imports _, _ => []
  | .classLike .interface _ _, _ => []
  | .classLike _ name members, st =>
    let path := some (st.declaredClass name.text)
    belowMembers imports path members (seeded imports path members st)
  | .function _ parameters body, st => [(.stmts body, entered imports {} parameters st)]
  | .evaluate _ values, st => [(.parts values, st)]
  | .block body, st => [(.stmts body, st)]
  | .ifElse condition yes no, st =>
    let between := (typesOf imports condition st).2
    [(.expr condition, st), (.stmts yes, between), (.stmts no, visitAll imports yes between)]
  | .foreachLoop subject _ body, st =>
    [(.expr subject, st), (.stmts body, (typesOf imports subject st).2)]
  | .forLoop initial conditions increments body, st =>
    let begun := visitParts imports initial st
    let tested := visitParts imports conditions begun
    [(.parts initial, st), (.parts conditions, begun), (.stmts body, tested),
      (.parts increments, visitAll imports body tested)]
  | .whileLoop condition body, st =>
    [(.expr condition, st), (.stmts body, (typesOf imports condition st).2)]
  | .doWhileLoop body condition, st =>
    [(.stmts body, st), (.expr condition, visitAll imports body st)]
  | .guarded body handlers, st =>
    [(.stmts body, st), (.stmts handlers, visitAll imports body st)]
  | .handler _ body, st => [(.stmts body, st)]
  | .switch subject cases, st =>
    [(.expr subject, st), (.stmts cases, (typesOf imports subject st).2)]
  | .case _ body, st => [(.stmts body, st)]
  | .inert _ _, _ => []

/-- The direct visits of a node. -/
def Node.below : Node → State → List (Node × State)
  | .expr e, st => belowExpr imports e st
  | .parts [], _ => []
  | .parts (e :: es), st => [(.expr e, st), (.parts es, (typesOf imports e st).2)]
  | .arguments [], _ => []
  | .arguments (.string _ _ :: es), st => [(.arguments es, st)]
  | .arguments (e :: es), st => [(.expr e, st), (.arguments es, (typesOf imports e st).2)]
  | .stmt s, st => belowStmt imports s st
  | .stmts [], _ => []
  | .stmts (s :: ss), st => [(.stmt s, st), (.stmts ss, visit imports s st)]

/-! ### Visits below visits -/

/-- A visit happens below another one, or is the same. -/
inductive Reaches : Node → State → Node → State → Prop
  | refl (n : Node) (st : State) : Reaches n st n st
  | step {n m k : Node} {st st' st'' : State} :
      (m, st') ∈ n.below imports st → Reaches m st' k st'' → Reaches n st k st''

/-- An expression is visited in a state during the analysis of a program. -/
def Visited (program : List Stmt) (e : Expr) (st : State) : Prop :=
  Reaches imports (.stmts program) {} (.expr e) st

variable {imports}

theorem Reaches.trans {n m k : Node} {st st' st'' : State} (h : Reaches imports n st m st')
    (h' : Reaches imports m st' k st'') : Reaches imports n st k st'' := by
  induction h with
  | refl => exact h'
  | step hbelow _ ih => exact .step hbelow (ih h')

theorem Reaches.of_below {n m k : Node} {st st' st'' : State} (h : Reaches imports n st m st')
    (hbelow : (k, st'') ∈ m.below imports st') : Reaches imports n st k st'' :=
  h.trans (.step hbelow (.refl k st''))

/-! ### Induction over visits -/

/-- The bodies of methods are smaller than the members they are among. -/
theorem sizeOf_of_mem_belowMembers {path : Option String} (ms : List Member) :
    ∀ st, ∀ v ∈ belowMembers imports path ms st, sizeOf v.1 < 1 + sizeOf ms := by
  induction ms with
  | nil => simp [belowMembers]
  | cons m ms ih =>
      intro st v hv
      cases m with
      | method name isStatic parameters body =>
          rw [belowMembers, List.mem_cons] at hv
          rcases hv with rfl | hv
          · simp
            omega
          · have hlt := ih _ v hv
            simp
            omega
      | property _ _ =>
          have hlt := ih _ v hv
          simp
          omega
      | other =>
          have hlt := ih _ v hv
          simp
          omega

theorem sizeOf_of_mem_belowExpr (e : Expr) (st : State) :
    ∀ v ∈ belowExpr imports e st, sizeOf v.1 < 1 + sizeOf e := by
  cases e with
  | newAnonymous _ arguments members =>
      intro v hv
      rw [belowExpr, List.mem_cons] at hv
      rcases hv with rfl | hv
      · simp
        omega
      · have hlt := sizeOf_of_mem_belowMembers members _ v hv
        simp
        omega
  | assign _ plain target value =>
      intro v hv
      rw [belowExpr, List.mem_cons] at hv
      rcases hv with rfl | hv
      · simp only [Node.expr.sizeOf_spec, Expr.assign.sizeOf_spec]
        omega
      · split at hv
        · obtain rfl := List.mem_singleton.1 hv
          simp only [Node.expr.sizeOf_spec, Expr.assign.sizeOf_spec]
          omega
        · cases hv
  | staticCall _ cls _ arguments =>
      intro v hv
      rw [belowExpr] at hv
      split at hv
      · obtain rfl := List.mem_singleton.1 hv
        simp only [Node.arguments.sizeOf_spec, Expr.staticCall.sizeOf_spec]
        omega
      · simp only [List.mem_cons, List.not_mem_nil, or_false] at hv
        rcases hv with rfl | rfl
        · simp only [Node.expr.sizeOf_spec, Expr.staticCall.sizeOf_spec]
          omega
        · simp only [Node.arguments.sizeOf_spec, Expr.staticCall.sizeOf_spec]
          omega
  | _ => simp [belowExpr] <;> omega

theorem sizeOf_of_mem_belowStmt (s : Stmt) (st : State) :
    ∀ v ∈ belowStmt imports s st, sizeOf v.1 < 1 + sizeOf s := by
  cases s with
  | classLike kind name members =>
      intro v hv
      cases kind with
      | interface => simp [belowStmt] at hv
      | _ =>
          have hlt := sizeOf_of_mem_belowMembers members _ v hv
          simp
          omega
  | _ => simp [belowStmt] <;> omega

/-- What is visited directly is smaller than what it is visited for. -/
theorem Node.sizeOf_of_mem_below (n : Node) (st : State) :
    ∀ v ∈ n.below imports st, sizeOf v.1 < sizeOf n := by
  cases n with
  | expr e => simpa [below] using sizeOf_of_mem_belowExpr e st
  | stmt s => simpa [below] using sizeOf_of_mem_belowStmt s st
  | parts es =>
      cases es with
      | nil => simp [below]
      | cons e es =>
          simp [below]
          omega
  | stmts ss =>
      cases ss with
      | nil => simp [below]
      | cons s ss =>
          simp [below]
          omega
  | arguments es =>
      cases es with
      | nil => simp [below]
      | cons e es =>
          -- a string literal is passed over, any other argument is visited
          cases e <;> simp [below] <;> omega

/-- **Induction over visits**: what holds of a visit when it holds of its direct visits holds of
all. -/
theorem Node.induction (imports : Imports) {P : Node → State → Prop}
    (h : ∀ n st, (∀ v ∈ n.below imports st, P v.1 v.2) → P n st) (n : Node) (st : State) :
    P n st :=
  h n st fun v _ => Node.induction imports h v.1 v.2
termination_by sizeOf n
decreasing_by
  exact n.sizeOf_of_mem_below st v ‹_›

end Analysis

end MockLens
