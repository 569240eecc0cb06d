/-
**Courses: what a visit does itself, and what it leaves to the visits below it.**

A visit of the walk is a sequence of its direct visits (`MockLens/Proofs/Visits.lean`) with acts of
its own between them: it binds a variable or a property, enters and leaves scopes and class-likes,
changes the namespace, and records.  There are few kinds of acts, and the candidate types an act
handles come from few sources.  This is said once, for every form of the language, by `Node.course`;
an invariant of the walk is then shown act by act, with no further look at the forms.

Main definitions:

* `callOf?` — the record that a visited call makes;
* `Known` — the candidate types a visit has at hand;
* `Act`, `Course` — the acts, and the sequences of acts and direct visits.

Main results:

* `Node.course` — every visit runs a course of its direct visits;
* `Node.exists_recorded` — a visit makes its own record behind all visits below it;
* `Reaches.holds` — what every visit preserves holds throughout;
* `Reaches.preserves` — what every act preserves holds throughout;
* `mem_calls_iff` — the calls on record are those of the visited expressions.
-/
import MockLens.Proofs.States
import MockLens.Proofs.Visits

set_option autoImplicit false

namespace MockLens

namespace Analysis

open Php (Expr Stmt Member Selector)

/-! ### Acts -/

section Definitions

variable (imports : Imports)

/-- The record a call makes when it is visited; a call whose method is computed, or whose class is
not known, makes none. -/
def callOf? : Expr → State → Option Call
  | .staticCall s cls (.named name) arguments, st =>
    match namedClass? imports st cls with
    | some (some path) =>
      some (callRecord s name
        ⟨CallSite.staticSignature path name.text, (argumentsOf imports arguments st).1, .fresh⟩
        (literalSpan? arguments) [])
    | _ => none
  | .methodCall s object (.named name) arguments, st =>
    let receiver := typesOf imports object st
    some (callRecord s name
      ⟨CallSite.memberSignature receiver.1 name.text, (argumentsOf imports arguments receiver.2).1,
        ChainState.ofReceiver receiver.1⟩
      (literalSpan? arguments) receiver.1)
  | _, _ => none

/-- The record a visit makes itself. -/
def Node.callOf? : Node → State → Option Call
  | .expr e, st => Analysis.callOf? imports e st
  | _, _ => none

/-- The candidate types at hand in a state, when the visits `done` are over and `call?` is the
record to be made. -/
inductive Known (call? : Option Call) (done : List (Node × State)) (st : State) : Types → Prop
  | nothing : Known call? done st []
  | visited {e : Expr} {st' : State} :
      (.expr e, st') ∈ done → Known call? done st (typesOf imports e st').1
  | bound (name : String) : Known call? done st (st.lookup name)
  | property (name : String) : Known call? done st (st.lookupProperty name)
  | named {e : Expr} {path : String} :
      namedClass? imports st e = some (some path) → Known call? done st [path]
  | declared (st' : State) (name : String) : Known call? done st [st'.declaredClass name]
  | hint (h : Php.Hint) : Known call? done st (st.hintTypes imports h)
  | united {first second : Types} :
      Known call? done st first → Known call? done st second →
        Known call? done st (unite first second)
  | key {call : Call} : call? = some call → Known call? done st call.key.toList

/-- What a visit does itself. -/
inductive Act (call? : Option Call) (done : List (Node × State)) : State → State → Prop
  | note {st : State} {types : Types} (span : Span) :
      Known imports call? done st types → Act call? done st (st.note span types)
  | noteCall {st : State} {call : Call} :
      call? = some call → Known imports call? done st call.receiverTypes →
        Act call? done st (st.noteCall call)
  | bind {st : State} {types : Types} (name : String) :
      Known imports call? done st types → Act call? done st (st.bind name types)
  | bindProperty {st : State} {types : Types} (name : String) :
      Known imports call? done st types → Act call? done st (st.bindProperty name types)
  | enterScope {st : State} {bound : Bindings} :
      (∀ name, Known imports call? done st (bound.lookup name)) →
        Act call? done st (st.enterScope bound)
  | leaveScope (st : State) : Act call? done st st.leaveScope
  | enterClass {st : State} {path : Option String} :
      (∀ p, path = some p → ∃ name, p = st.declaredClass name) →
        Act call? done st (st.enterClass path)
  | leaveClass (st : State) : Act call? done st st.leaveClass
  | rescope (st : State) (scope : Option String) : Act call? done st { st with scope := scope }

/-- A sequence of acts and visits, in which exactly the visits `todo` are made, in this order. -/
inductive Course (call? : Option Call) :
    List (Node × State) → List (Node × State) → State → State → Prop
  | stop (done : List (Node × State)) (st : State) : Course call? done [] st st
  | act {done todo : List (Node × State)} {st st' st'' : State} :
      Act imports call? done st st' → Course call? done todo st' st'' →
        Course call? done todo st st''
  | visit {done todo : List (Node × State)} {n : Node} {st st' : State} :
      Course call? ((n, st) :: done) todo (n.run imports st) st' →
        Course call? done ((n, st) :: todo) st st'

end Definitions

variable {imports : Imports}

/-! ### Courses of the parts -/

section Parts

variable {call? : Option Call} {done todo : List (Node × State)} {st' : State}

theorem Course.bindParameters (parameters : List Php.Parameter) :
    ∀ {st : State}, Course imports call? done todo (st.bindParameters imports parameters) st' →
      Course imports call? done todo st st' := by
  induction parameters with
  | nil => exact fun h => h
  | cons p parameters ih =>
      intro st h
      have h' := ih h
      dsimp only at h'
      split at h'
      · exact .act (.bind _ (.hint _)) h'
      · exact h'

theorem Course.bindProperties (hint : Php.Hint) (names : List String) :
    ∀ {st : State},
      Course imports call? done todo
        (names.foldl
          (fun st name =>
            st.bindProperty (Text.trimStart (· == '$') name) (st.hintTypes imports hint)) st) st' →
        Course imports call? done todo st st' := by
  induction names with
  | nil => exact fun h => h
  | cons name names ih => exact fun h => .act (.bindProperty _ (.hint hint)) (ih h)

theorem Course.bindMembers (members : List Member) :
    ∀ {st : State},
      Course imports call? done todo (members.foldl (State.bindMember imports) st) st' →
        Course imports call? done todo st st' := by
  induction members with
  | nil => exact fun h => h
  | cons m members ih =>
      intro st h
      have h' := ih h
      unfold State.bindMember at h'
      split at h'
      · exact .bindProperties _ _ h'
      · exact h'

theorem Course.entered {bound : Bindings} {parameters : List Php.Parameter} {st : State}
    (hbound : ∀ name, Known imports call? done st (bound.lookup name))
    (h : Course imports call? done todo (Analysis.entered imports bound parameters st) st') :
    Course imports call? done todo st st' :=
  .act (.enterScope hbound) (.bindParameters parameters h)

theorem Course.seeded {path : Option String} {members : List Member} {st : State}
    (hpath : ∀ p, path = some p → ∃ name, p = st.declaredClass name)
    (h : Course imports call? done todo (Analysis.seeded imports path members st) st') :
    Course imports call? done todo st st' :=
  .act (.enterClass hpath) (.bindMembers members h)

theorem Known.closureScope (st : State) (captures : List String) (name : String) :
    Known imports call? done st ((closureScope st captures).lookup name) := by
  rw [closureScope_lookup]
  split
  · exact .bound name
  · exact .nothing

theorem Known.methodScope {st : State} {path : Option String}
    (hpath : ∀ p, path = some p → ∃ (st₀ : State) (name : String), p = st₀.declaredClass name)
    (isStatic : Bool) (name : String) :
    Known imports call? done st ((methodScope path isStatic).lookup name) := by
  rw [methodScope_lookup]
  split
  · cases path with
    | none => exact .nothing
    | some p =>
        obtain ⟨st₀, declared, rfl⟩ := hpath p rfl
        exact .declared st₀ declared
  · exact .nothing

/-- The members of a class-like: between the bodies of two methods one scope is left and another
one entered. -/
theorem Course.members {path : Option String}
    (hpath : ∀ p, path = some p → ∃ (st₀ : State) (name : String), p = st₀.declaredClass name)
    (members : List Member) :
    ∀ {done : List (Node × State)} {st : State},
      (∀ done, Course imports call? done [] (visitMembers imports path members st) st') →
        Course imports call? done (belowMembers imports path members st) st st' := by
  induction members with
  | nil => exact fun h => h _
  | cons m members ih =>
      intro done st h
      cases m with
      | method name isStatic parameters body =>
          simp only [visitMembers, visitMember] at h
          rw [belowMembers]
          refine .entered (.methodScope hpath isStatic) (.visit (.act (.leaveScope _) ?_))
          rw [visitMember]
          exact ih h
      | property _ _ => exact ih h
      | other => exact ih h

end Parts

/-! ### Courses of all visits -/

theorem Course.expr (e : Expr) (st : State) :
    Course imports (callOf? imports e st) [] (belowExpr imports e st) st
      (typesOf imports e st).2 := by
  cases e with
  | var s name =>
      rw [typesOf]
      exact .act (.note s (.bound name)) (.stop _ _)
  | string _ _ => exact .stop _ _
  | name _ _ => exact .stop _ _
  | classWord _ _ => exact .stop _ _
  | paren s inner =>
      rw [typesOf]
      exact .visit (.act (.note s (.visited (by simp))) (.stop _ _))
  | assign s plain target value =>
      rw [typesOf, belowExpr]
      refine .visit ?_
      generalize (if plain then Target.of target else .other) = change
      -- the types of the value are handled in later states than the one they were found in
      have hvalue : ∀ {call?} {st' : State}, Known imports call? [(.expr value, st)] st'
          (typesOf imports value st).1 := .visited (by simp)
      rcases change with name | name | _
      · exact .act (.bind name hvalue)
          (.act (.note _ hvalue) (.act (.note s hvalue) (.stop _ _)))
      · exact .act (.bindProperty name hvalue)
          (.act (.note _ hvalue) (.act (.note s hvalue) (.stop _ _)))
      · exact .visit (.act (.note s (.visited (by simp))) (.stop _ _))
  | conditional s condition yes no =>
      rw [typesOf]
      exact .visit (.visit (.visit
        (.act (.note s (.united (.visited (by simp)) (.visited (by simp)))) (.stop _ _))))
  | orElse s condition no =>
      rw [typesOf]
      exact .visit (.visit (.act (.note s (.united .nothing (.visited (by simp)))) (.stop _ _)))
  | operation _ _ parts =>
      rw [typesOf]
      exact .visit (.stop _ _)
  | arm _ _ body =>
      rw [typesOf]
      exact .visit (.stop _ _)
  | clone s object =>
      rw [typesOf]
      exact .visit (.act (.note s (.visited (by simp))) (.stop _ _))
  | new s cls arguments =>
      rw [typesOf]
      refine .visit (.act (.note s ?_) (.stop _ _))
      rcases hcls : namedClass? imports (argumentsOf imports arguments st).2 cls with
        _ | _ | path
      · exact .nothing
      · exact .nothing
      · exact .named hcls
  | newAnonymous _ arguments members =>
      rw [typesOf]
      refine .visit (.seeded (by simp) (.members (by simp) members fun _ => ?_))
      exact .act (.leaveClass _) (.stop _ _)
  | closure _ parameters captures body =>
      rw [typesOf]
      refine .entered (.closureScope st captures) (.visit ?_)
      exact .act (.leaveScope _) (.stop _ _)
  | arrow _ parameters body =>
      rw [typesOf]
      refine .entered (fun name => .bound name) (.visit ?_)
      exact .act (.leaveScope _) (.stop _ _)
  | call _ _ arguments =>
      rw [typesOf]
      exact .visit (.stop _ _)
  | staticCall s cls method arguments =>
      rw [typesOf, belowExpr]
      rcases hcls : namedClass? imports st cls with _ | path
      · -- a computed class is visited like any expression, and the call is not recorded
        exact .visit (.visit (.stop _ _))
      · refine .visit ?_
        rcases path with _ | path
        · cases method <;> exact .act (.note s .nothing) (.stop _ _)
        · cases method with
          | named name =>
              have hcall : callOf? imports (.staticCall s cls (.named name) arguments) st
                  = some (callRecord s name ⟨CallSite.staticSignature path name.text,
                      (argumentsOf imports arguments st).1, .fresh⟩
                      (literalSpan? arguments) []) := by
                rw [callOf?, hcls]
              exact .act (.noteCall hcall .nothing) (.act (.note s (.key hcall)) (.stop _ _))
          | computed _ => exact .act (.note s .nothing) (.stop _ _)
          | missing => exact .act (.note s .nothing) (.stop _ _)
  | methodCall s object method arguments =>
      rw [typesOf]
      refine .visit (.visit ?_)
      cases method with
      | named name =>
          refine .act (.noteCall rfl ?_) (.act (.note s (.key rfl)) (.stop _ _))
          exact .visited (by simp)
      | computed _ => exact .act (.note s .nothing) (.stop _ _)
      | missing => exact .act (.note s .nothing) (.stop _ _)
  | property s _ object selector =>
      rw [typesOf]
      refine .visit ?_
      split
      · exact .act (.note s (.property _)) (.stop _ _)
      · exact .stop _ _
  | classMember _ cls =>
      rw [typesOf]
      exact .visit (.stop _ _)
  | construct _ _ _ => exact .stop _ _

theorem Course.stmt (s : Stmt) (st : State) :
    Course imports none [] (belowStmt imports s st) st (Analysis.visit imports s st) := by
  cases s with
  | scope name body =>
      rw [Analysis.visit]
      exact .act (.rescope _ _) (.visit (.act (.rescope _ _) (.stop _ _)))
  | imports _ => exact .stop _ _
  | classLike kind name members =>
      have hdeclared : ∀ p, some (st.declaredClass name.text) = some p →
          ∃ name, p = st.declaredClass name := by
        rintro p ⟨⟩
        exact ⟨name.text, rfl⟩
      have hcourse : Course imports none []
          (belowMembers imports (some (st.declaredClass name.text)) members
            (Analysis.seeded imports (some (st.declaredClass name.text)) members st)) st
          (visitMembers imports (some (st.declaredClass name.text)) members
            (Analysis.seeded imports (some (st.declaredClass name.text)) members st)).leaveClass :=
        .seeded hdeclared
          (.members (fun p hp => ⟨st, hdeclared p hp⟩) members fun _ =>
            .act (.leaveClass _) (.stop _ _))
      cases kind with
      | interface => exact .stop _ _
      | _ =>
          simp only [Analysis.visit, belowStmt]
          exact hcourse
  | function _ parameters body =>
      rw [Analysis.visit]
      refine .entered (fun _ => .nothing) (.visit ?_)
      exact .act (.leaveScope _) (.stop _ _)
  | evaluate _ values =>
      rw [Analysis.visit]
      exact .visit (.stop _ _)
  | block body =>
      rw [Analysis.visit]
      exact .visit (.stop _ _)
  | ifElse condition yes no =>
      rw [Analysis.visit]
      exact .visit (.visit (.visit (.stop _ _)))
  | foreachLoop subject _ body =>
      rw [Analysis.visit]
      exact .visit (.visit (.stop _ _))
  | forLoop initial conditions increments body =>
      rw [Analysis.visit]
      exact .visit (.visit (.visit (.visit (.stop _ _))))
  | whileLoop condition body =>
      rw [Analysis.visit]
      exact .visit (.visit (.stop _ _))
  | doWhileLoop body condition =>
      rw [Analysis.visit]
      exact .visit (.visit (.stop _ _))
  | guarded body handlers =>
      rw [Analysis.visit]
      exact .visit (.visit (.stop _ _))
  | handler _ body =>
      rw [Analysis.visit]
      exact .visit (.stop _ _)
  | switch subject cases =>
      rw [Analysis.visit]
      exact .visit (.visit (.stop _ _))
  | case _ body =>
      rw [Analysis.visit]
      exact .visit (.stop _ _)
  | inert _ _ => exact .stop _ _

/-- **Every visit runs a course of its direct visits.** -/
theorem Node.course (n : Node) (st : State) :
    Course imports (n.callOf? imports st) [] (n.below imports st) st (n.run imports st) := by
  cases n with
  | expr e => exact .expr e st
  | stmt s => exact .stmt s st
  | parts es =>
      cases es with
      | nil => exact .stop _ _
      | cons e es =>
          rw [run, visitParts]
          exact .visit (.visit (.stop _ _))
  | stmts ss =>
      cases ss with
      | nil => exact .stop _ _
      | cons s ss =>
          rw [run, visitAll]
          exact .visit (.visit (.stop _ _))
  | arguments es =>
      cases es with
      | nil => exact .stop _ _
      | cons e es =>
          cases e with
          | string _ _ =>
              rw [run, argumentsOf]
              exact .visit (.stop _ _)
          | _ =>
              rw [run, argumentsOf]
              · exact .visit (.visit (.stop _ _))
              · simp

/-! ### Visits first, records last -/

/-- The state behind the record that a visit makes itself, if it makes one: the call is noted, and
so is its key as its candidate type. -/
def State.recorded (st : State) : Option Call → State
  | some call => (st.noteCall call).note call.span call.key.toList
  | none => st

/-- **A visit makes its own record behind all visits below it.** -/
theorem Node.exists_recorded (imports : Imports) (n : Node) (st : State) :
    ∃ before, Course imports none [] (n.below imports st) st before ∧
      n.run imports st = before.recorded (n.callOf? imports st) := by
  cases hcall : n.callOf? imports st with
  | none =>
      have hcourse : Course imports (n.callOf? imports st) [] _ st _ := n.course st
      rw [hcall] at hcourse
      exact ⟨_, hcourse, rfl⟩
  | some call =>
      cases n with
      | expr e =>
          simp only [callOf?] at hcall
          unfold Analysis.callOf? at hcall
          split at hcall
          · rename_i s cls name arguments
            split at hcall
            · rename_i path hcls
              obtain rfl := Option.some.inj hcall
              refine ⟨(argumentsOf imports arguments st).2, ?_, ?_⟩
              · simp only [below, belowExpr, hcls]
                exact .visit (.stop _ _)
              · simp only [run, typesOf, hcls]
                rfl
            · cases hcall
          · rename_i s object name arguments
            obtain rfl := Option.some.inj hcall
            refine ⟨(argumentsOf imports arguments (typesOf imports object st).2).2, ?_, ?_⟩
            · exact .visit (.visit (.stop _ _))
            · simp only [run, typesOf]
              rfl
          · cases hcall
      | _ => cases hcall

/-! ### Invariants -/

/-- A property that acts preserve is preserved by a course whose visits preserve it, and it holds
where those visits begin. -/
theorem Course.preserves {P : State → Prop} {call? : Option Call} {done todo : List (Node × State)}
    {st st' : State} (h : Course imports call? done todo st st')
    (hact : ∀ {done s s'}, (∀ v ∈ done, P (v.1.run imports v.2)) →
      Act imports call? done s s' → P s → P s')
    (hvisits : ∀ v ∈ todo, P v.2 → P (v.1.run imports v.2))
    (hdone : ∀ v ∈ done, P (v.1.run imports v.2)) (hst : P st) :
    P st' ∧ ∀ v ∈ todo, P v.2 := by
  induction h with
  | stop => exact ⟨hst, by simp⟩
  | act ha _ ih => exact ih hvisits hdone (hact hdone ha hst)
  | @visit done todo n s s' _ ih =>
      have hrun : P (n.run imports s) := hvisits _ (List.mem_cons_self ..) hst
      have hrest := ih (fun v hv => hvisits v (List.mem_cons_of_mem _ hv))
        (List.forall_mem_cons.2 ⟨hrun, hdone⟩) hrun
      exact ⟨hrest.1, List.forall_mem_cons.2 ⟨hst, hrest.2⟩⟩

/-- What every visit preserves, if the visits below it do, holds throughout: where visits begin, and
where they end. -/
theorem Reaches.holds {P : State → Prop} {root : Node} {start : State}
    (hvisit : ∀ {n st}, Reaches imports root start n st →
      (∀ v ∈ n.below imports st, P v.2 → P (v.1.run imports v.2)) → P st →
        P (n.run imports st) ∧ ∀ v ∈ n.below imports st, P v.2)
    (hstart : P start) {n : Node} {st : State} (h : Reaches imports root start n st) :
    P st ∧ P (n.run imports st) := by
  -- one visit, by induction over visits
  have hone : ∀ n st, Reaches imports root start n st → P st →
      P (n.run imports st) ∧ ∀ v ∈ n.below imports st, P v.2 := by
    intro n st
    refine Node.induction imports
      (P := fun n st => Reaches imports root start n st → P st →
        P (n.run imports st) ∧ ∀ v ∈ n.below imports st, P v.2) ?_ n st
    intro n st ih hreach hst
    exact hvisit hreach (fun v hv hP => (ih v hv (hreach.of_below hv) hP).1) hst
  -- many visits, from the root downwards
  have hall : ∀ n st m st', Reaches imports n st m st' → Reaches imports root start n st →
      P st → P st' := by
    intro n st m st' hbelow
    induction hbelow with
    | refl => exact fun _ hst => hst
    | step hmem _ ih =>
        exact fun hreach hst => ih (hreach.of_below hmem) ((hone _ _ hreach hst).2 _ hmem)
  have hst := hall _ _ _ _ h (.refl _ _) hstart
  exact ⟨hst, (hone n st h hst).1⟩

/-- **What every act preserves holds throughout**: where visits begin, and where they end. -/
theorem Reaches.preserves {P : State → Prop} {root : Node} {start : State}
    (hact : ∀ {n before done s s'}, Reaches imports root start n before →
      (∀ v ∈ done, P (v.1.run imports v.2)) →
        Act imports (n.callOf? imports before) done s s' → P s → P s')
    (hstart : P start) {n : Node} {st : State} (h : Reaches imports root start n st) :
    P st ∧ P (n.run imports st) :=
  h.holds
    (fun hreach hbelow hst => (Node.course _ _).preserves (hact hreach) hbelow (by simp) hst)
    hstart

/-! ### Records -/

/-- One analysis continues another: its records begin with those of the other. -/
structure Continues (a b : Analysis) : Prop where
  calls : a.calls.toList <+: b.calls.toList
  typed : a.typed.toList <+: b.typed.toList

theorem Continues.refl (a : Analysis) : Continues a a := ⟨List.prefix_rfl, List.prefix_rfl⟩

theorem Continues.trans {a b c : Analysis} (h : Continues a b) (h' : Continues b c) :
    Continues a c :=
  ⟨h.calls.trans h'.calls, h.typed.trans h'.typed⟩

theorem Act.continues {call? : Option Call} {done : List (Node × State)} {st st' : State}
    (h : Act imports call? done st st') : Continues st.records st'.records := by
  cases h with
  | note span _ =>
      unfold State.note
      split
      · exact .refl _
      · exact ⟨List.prefix_rfl, by simp⟩
  | noteCall _ _ => exact ⟨by simp [State.noteCall], List.prefix_rfl⟩
  | bindProperty _ _ =>
      unfold State.bindProperty
      split <;> exact .refl _
  | _ => exact .refl _

/-- No visit takes a record back. -/
theorem Node.run_continues (n : Node) (st : State) :
    Continues st.records (n.run imports st).records :=
  (Reaches.preserves (P := fun s => Continues st.records s.records)
    (fun _ _ ha hs => hs.trans ha.continues) (.refl _) (.refl n st)).2

theorem Course.continues {call? : Option Call} {done todo : List (Node × State)} {st st' : State}
    (h : Course imports call? done todo st st') :
    Continues st.records st'.records ∧
      ∀ v ∈ todo, Continues (v.1.run imports v.2).records st'.records := by
  induction h with
  | stop => exact ⟨.refl _, by simp⟩
  | act ha _ ih => exact ⟨ha.continues.trans ih.1, ih.2⟩
  | visit _ ih =>
      exact ⟨(Node.run_continues _ _).trans ih.1, List.forall_mem_cons.2 ⟨ih.1, ih.2⟩⟩

/-- What is recorded in a visit stays on record in the visits above it. -/
theorem Reaches.continues {n m : Node} {st st' : State} (h : Reaches imports n st m st') :
    Continues (m.run imports st').records (n.run imports st).records := by
  induction h with
  | refl => exact .refl _
  | step hmem _ ih => exact ih.trans ((Node.course _ _).continues.2 _ hmem)

/-- A call that is visited is recorded. -/
theorem mem_calls_of_callOf? {e : Expr} {st : State} {call : Call}
    (h : callOf? imports e st = some call) :
    call ∈ (typesOf imports e st).2.records.calls.toList := by
  unfold callOf? at h
  split at h
  · split at h
    · rename_i hcls
      obtain rfl := Option.some.inj h
      simp [typesOf, hcls, noted, recordStatic, recordCall]
    · cases h
  · obtain rfl := Option.some.inj h
    simp [typesOf, noted, recordMember, recordCall]
  · cases h

/-- The candidate types of a call are its key, if it has one. -/
theorem typesOf_of_callOf? {e : Expr} {st : State} {call : Call}
    (h : callOf? imports e st = some call) : (typesOf imports e st).1 = call.key.toList := by
  unfold callOf? at h
  split at h
  · split at h
    · rename_i hcls
      obtain rfl := Option.some.inj h
      simp only [typesOf, hcls]
      rfl
    · cases h
  · obtain rfl := Option.some.inj h
    rw [typesOf]
    rfl
  · cases h

/-- **The calls on record are those of the visited expressions.** -/
theorem mem_calls_iff (program : List Stmt) (call : Call) :
    call ∈ (ofStatements imports program).calls.toList
      ↔ ∃ e st, Visited imports program e st ∧ callOf? imports e st = some call := by
  constructor
  · intro hmem
    have hstart : Reaches imports (.stmts program) {} (.stmts program) {} := .refl _ _
    have hall := (hstart.preserves
      (P := fun s => ∀ call ∈ s.records.calls.toList,
        ∃ e st, Visited imports program e st ∧ callOf? imports e st = some call) ?_ (by simp)).2
    · exact hall call hmem
    -- only one kind of act adds to the calls, and what it adds is the record of the visit
    intro n before done s s' hreach _ ha hs
    cases ha with
    | noteCall hcall _ =>
        intro call' hmem'
        rw [State.calls_noteCall, Array.toList_push, List.mem_append, List.mem_singleton] at hmem'
        rcases hmem' with hmem' | rfl
        · exact hs call' hmem'
        · cases n with
          | expr e => exact ⟨e, before, hreach, hcall⟩
          | _ => cases hcall
    | note span _ => simpa using hs
    | bindProperty name _ =>
        unfold State.bindProperty
        split <;> exact hs
    | _ => exact hs
  · rintro ⟨e, st, hvisited, hcall⟩
    exact hvisited.continues.calls.subset (mem_calls_of_callOf? hcall)

end Analysis

end MockLens
