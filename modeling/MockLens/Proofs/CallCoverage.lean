/-
**Call coverage: which member calls of a program are on record.**

The walk looks into most places of a program but not into all of them.  It passes over what a call
of a function computes to find the function, over the conditions of the arms of a choice, the
labels of cases, the targets of loops, computed selectors and computed classes, and over the forms
it has no rule for, such as subscripts.  A member call in such a place leaves no record.  Of all
other member calls exactly one record each is made, in the order of evaluation.

The member calls of a program are listed here from its tree alone, with or without the places that
are passed over, and the list without them is shown to be what the walk records.

Main definitions:

* `callsOfExpr`, `callsOfStmts`, … — the spans of the member calls, in the order of evaluation;
* `Call.isStatic` — the records of static calls.

Main results:

* `Node.memberCalls_eq_flatMap` — the member calls of a node are those of its direct visits and its
  own;
* `memberCalls_recorded` — the member calls on record are those in the places that are looked into;
* `call_in_subscript_unrecorded` — a call in a subscript leaves no record.
-/
import MockLens.Document
import MockLens.Proofs.CallClassification

set_option autoImplicit false

namespace MockLens

/-- The record of a static call. -/
def Call.isStatic (call : Call) : Bool := Text.startsWith "#M#C" call.signature

namespace Analysis

open Php (Expr Stmt Member Selector)

/-! ### The member calls of a tree -/

section Definitions

-- whether the places that the walk passes over count
variable (hidden : Bool)

mutual

/-- The spans of the member calls in an expression whose method is named, in the order of their
evaluation. -/
def callsOfExpr : Expr → List Span
  | .var _ _ => []
  | .string _ _ => []
  | .name _ _ => []
  | .classWord _ _ => []
  | .paren _ inner => callsOfExpr inner
  | .assign _ _ target value => callsOfExpr value ++ callsOfExpr target
  | .conditional _ condition yes no =>
    callsOfExpr condition ++ (callsOfExpr yes ++ callsOfExpr no)
  | .orElse _ condition no => callsOfExpr condition ++ callsOfExpr no
  | .operation _ _ parts => callsOfParts parts
  | .arm _ conditions body =>
    (if hidden then callsOfParts conditions else []) ++ callsOfExpr body
  | .clone _ object => callsOfExpr object
  | .new _ cls arguments => (if hidden then callsOfExpr cls else []) ++ callsOfParts arguments
  | .newAnonymous _ arguments members => callsOfParts arguments ++ callsOfMembers members
  | .closure _ _ _ body => callsOfStmts body
  | .arrow _ _ body => callsOfExpr body
  | .call _ callee arguments =>
    (if hidden then callsOfExpr callee else []) ++ callsOfParts arguments
  | .staticCall _ cls method arguments =>
    callsOfExpr cls ++ (if hidden then callsOfSelector method else []) ++ callsOfParts arguments
  | .methodCall s object method arguments =>
    callsOfExpr object ++ (if hidden then callsOfSelector method else []) ++ callsOfParts arguments
      ++ match method with
        | .named _ => [s]
        | _ => []
  | .property _ _ object name =>
    callsOfExpr object ++ if hidden then callsOfSelector name else []
  | .classMember _ cls => callsOfExpr cls
  | .construct _ _ parts => if hidden then callsOfParts parts else []

def callsOfSelector : Selector → List Span
  | .named _ => []
  | .computed value => callsOfExpr value
  | .missing => []

def callsOfParts : List Expr → List Span
  | [] => []
  | e :: es => callsOfExpr e ++ callsOfParts es

/-- The spans of the member calls in a statement whose method is named. -/
def callsOfStmt : Stmt → List Span
  | .scope _ body => callsOfStmts body
  | .imports _ => []
  | .classLike .interface _ members => if hidden then callsOfMembers members else []
  | .classLike _ _ members => callsOfMembers members
  | .function _ _ body => callsOfStmts body
  | .evaluate _ values => callsOfParts values
  | .block body => callsOfStmts body
  | .ifElse condition yes no =>
    callsOfExpr condition ++ (callsOfStmts yes ++ callsOfStmts no)
  | .foreachLoop subject targets body =>
    callsOfExpr subject ++ (if hidden then callsOfParts targets else []) ++ callsOfStmts body
  | .forLoop initial conditions increments body =>
    callsOfParts initial ++
      (callsOfParts conditions ++ (callsOfStmts body ++ callsOfParts increments))
  | .whileLoop condition body => callsOfExpr condition ++ callsOfStmts body
  | .doWhileLoop body condition => callsOfStmts body ++ callsOfExpr condition
  | .guarded body handlers => callsOfStmts body ++ callsOfStmts handlers
  | .handler _ body => callsOfStmts body
  | .switch subject cases => callsOfExpr subject ++ callsOfStmts cases
  | .case label body => (if hidden then callsOfParts label else []) ++ callsOfStmts body
  | .inert parts body => if hidden then callsOfParts parts ++ callsOfStmts body else []

def callsOfStmts : List Stmt → List Span
  | [] => []
  | s :: ss => callsOfStmt s ++ callsOfStmts ss

def callsOfMembers : List Member → List Span
  | [] => []
  | .method _ _ _ body :: ms => callsOfStmts body ++ callsOfMembers ms
  | _ :: ms => callsOfMembers ms

end

/-- The spans of the member calls in a node. -/
def Node.memberCalls : Node → List Span
  | .expr e => callsOfExpr hidden e
  | .parts es => callsOfParts hidden es
  | .arguments es => callsOfParts hidden es
  | .stmt s => callsOfStmt hidden s
  | .stmts ss => callsOfStmts hidden ss

end Definitions

/-! ### Places that are passed over -/

theorem sublist_hidden {α : Type} (xs ys : List α) :
    ((if false = true then xs else []) : List α).Sublist (if true = true then ys else []) := by
  simp

mutual

theorem callsOfExpr_sublist (e : Expr) :
    (callsOfExpr false e).Sublist (callsOfExpr true e) := by
  cases e with
  | paren _ inner => simpa only [callsOfExpr] using callsOfExpr_sublist inner
  | assign _ _ target value =>
      simp only [callsOfExpr]
      exact (callsOfExpr_sublist value).append (callsOfExpr_sublist target)
  | conditional _ condition yes no =>
      simp only [callsOfExpr]
      exact (callsOfExpr_sublist condition).append
        ((callsOfExpr_sublist yes).append (callsOfExpr_sublist no))
  | orElse _ condition no =>
      simp only [callsOfExpr]
      exact (callsOfExpr_sublist condition).append (callsOfExpr_sublist no)
  | operation _ _ parts => simpa only [callsOfExpr] using callsOfParts_sublist parts
  | arm _ conditions body =>
      simp only [callsOfExpr]
      exact (sublist_hidden _ _).append (callsOfExpr_sublist body)
  | clone _ object => simpa only [callsOfExpr] using callsOfExpr_sublist object
  | new _ cls arguments =>
      simp only [callsOfExpr]
      exact (sublist_hidden _ _).append (callsOfParts_sublist arguments)
  | newAnonymous _ arguments members =>
      simp only [callsOfExpr]
      exact (callsOfParts_sublist arguments).append (callsOfMembers_sublist members)
  | closure _ _ _ body => simpa only [callsOfExpr] using callsOfStmts_sublist body
  | arrow _ _ body => simpa only [callsOfExpr] using callsOfExpr_sublist body
  | call _ callee arguments =>
      simp only [callsOfExpr]
      exact (sublist_hidden _ _).append (callsOfParts_sublist arguments)
  | staticCall _ cls method arguments =>
      simp only [callsOfExpr]
      exact ((callsOfExpr_sublist cls).append (sublist_hidden _ _)).append
        (callsOfParts_sublist arguments)
  | methodCall _ object method arguments =>
      simp only [callsOfExpr]
      exact (((callsOfExpr_sublist object).append (sublist_hidden _ _)).append
        (callsOfParts_sublist arguments)).append (.refl _)
  | property _ _ object name =>
      simp only [callsOfExpr]
      exact (callsOfExpr_sublist object).append (sublist_hidden _ _)
  | classMember _ cls => simpa only [callsOfExpr] using callsOfExpr_sublist cls
  | _ => simp [callsOfExpr]

theorem callsOfParts_sublist (es : List Expr) :
    (callsOfParts false es).Sublist (callsOfParts true es) := by
  cases es with
  | nil => simp [callsOfParts]
  | cons e es =>
      simp only [callsOfParts]
      exact (callsOfExpr_sublist e).append (callsOfParts_sublist es)

theorem callsOfStmt_sublist (s : Stmt) :
    (callsOfStmt false s).Sublist (callsOfStmt true s) := by
  cases s with
  | classLike kind _ members =>
      cases kind with
      | interface => simp [callsOfStmt]
      | _ =>
          simp only [callsOfStmt]
          exact callsOfMembers_sublist members
  | scope _ body => simpa only [callsOfStmt] using callsOfStmts_sublist body
  | function _ _ body => simpa only [callsOfStmt] using callsOfStmts_sublist body
  | evaluate _ values => simpa only [callsOfStmt] using callsOfParts_sublist values
  | block body => simpa only [callsOfStmt] using callsOfStmts_sublist body
  | ifElse condition yes no =>
      simp only [callsOfStmt]
      exact (callsOfExpr_sublist condition).append
        ((callsOfStmts_sublist yes).append (callsOfStmts_sublist no))
  | foreachLoop subject targets body =>
      simp only [callsOfStmt]
      exact ((callsOfExpr_sublist subject).append (sublist_hidden _ _)).append
        (callsOfStmts_sublist body)
  | forLoop initial conditions increments body =>
      simp only [callsOfStmt]
      exact (callsOfParts_sublist initial).append ((callsOfParts_sublist conditions).append
        ((callsOfStmts_sublist body).append (callsOfParts_sublist increments)))
  | whileLoop condition body =>
      simp only [callsOfStmt]
      exact (callsOfExpr_sublist condition).append (callsOfStmts_sublist body)
  | doWhileLoop body condition =>
      simp only [callsOfStmt]
      exact (callsOfStmts_sublist body).append (callsOfExpr_sublist condition)
  | guarded body handlers =>
      simp only [callsOfStmt]
      exact (callsOfStmts_sublist body).append (callsOfStmts_sublist handlers)
  | handler _ body => simpa only [callsOfStmt] using callsOfStmts_sublist body
  | switch subject cases =>
      simp only [callsOfStmt]
      exact (callsOfExpr_sublist subject).append (callsOfStmts_sublist cases)
  | case _ body =>
      simp only [callsOfStmt]
      exact (sublist_hidden _ _).append (callsOfStmts_sublist body)
  | _ => simp [callsOfStmt]

theorem callsOfStmts_sublist (ss : List Stmt) :
    (callsOfStmts false ss).Sublist (callsOfStmts true ss) := by
  cases ss with
  | nil => simp [callsOfStmts]
  | cons s ss =>
      simp only [callsOfStmts]
      exact (callsOfStmt_sublist s).append (callsOfStmts_sublist ss)

theorem callsOfMembers_sublist (ms : List Member) :
    (callsOfMembers false ms).Sublist (callsOfMembers true ms) := by
  cases ms with
  | nil => simp [callsOfMembers]
  | cons m ms =>
      cases m with
      | method _ _ _ body =>
          simp only [callsOfMembers]
          exact (callsOfStmts_sublist body).append (callsOfMembers_sublist ms)
      | property _ _ => simpa only [callsOfMembers] using callsOfMembers_sublist ms
      | other => simpa only [callsOfMembers] using callsOfMembers_sublist ms

end

/-! ### Member calls, visit by visit -/

variable {imports : Imports}

/-- The span of the member call that a node is. -/
def Node.ownCall : Node → List Span
  | .expr (.methodCall s _ (.named _) _) => [s]
  | _ => []

theorem callsOfExpr_of_namedClass? {hidden : Bool} {e : Expr} {st : State} {path : Option String}
    (h : namedClass? imports st e = some path) : callsOfExpr hidden e = [] := by
  unfold namedClass? at h
  split at h <;> first | rfl | cases h

/-- What a plain assignment binds holds no call. -/
theorem callsOfExpr_of_target {hidden : Bool} {e : Expr} (h : Target.of e ≠ .other) :
    callsOfExpr hidden e = [] := by
  unfold Target.of at h
  split at h
  · rfl
  · split at h
    · rename_i hown
      unfold ownProperty? at hown
      split at hown
      · simp [callsOfExpr, callsOfSelector]
      · cases hown
    · exact absurd rfl h
  · exact absurd rfl h

theorem callsOfMembers_eq_flatMap (path : Option String) (ms : List Member) :
    ∀ st, callsOfMembers false ms
      = (belowMembers imports path ms st).flatMap fun v => v.1.memberCalls false := by
  induction ms with
  | nil => exact fun _ => rfl
  | cons m ms ih =>
      intro st
      cases m with
      | method name isStatic parameters body =>
          rw [callsOfMembers, belowMembers, List.flatMap_cons, ← ih]
          rfl
      | property _ _ => exact ih st
      | other => exact ih st

theorem callsOfExpr_eq_flatMap (e : Expr) (st : State) :
    callsOfExpr false e
      = ((belowExpr imports e st).flatMap fun v => v.1.memberCalls false) ++
        Node.ownCall (.expr e) := by
  cases e with
  | assign _ plain target value =>
      by_cases hother : (if plain then Target.of target else .other) = .other
      · simp [callsOfExpr, belowExpr, hother, Node.memberCalls, Node.ownCall]
      · have htarget : Target.of target ≠ .other := by
          cases plain
          · exact absurd rfl hother
          · exact hother
        rw [callsOfExpr, callsOfExpr_of_target htarget, belowExpr]
        generalize (if plain then Target.of target else .other) = change at hother
        cases change with
        | other => exact absurd rfl hother
        | _ => simp [Node.memberCalls, Node.ownCall]
  | newAnonymous _ arguments members =>
      rw [callsOfExpr, belowExpr, List.flatMap_cons, ← callsOfMembers_eq_flatMap]
      simp [Node.memberCalls, Node.ownCall]
  | staticCall _ cls method arguments =>
      cases hcls : namedClass? imports st cls with
      | none => simp [callsOfExpr, belowExpr, hcls, Node.memberCalls, Node.ownCall]
      | some path =>
          simp [callsOfExpr, belowExpr, hcls, callsOfExpr_of_namedClass? hcls, Node.memberCalls,
            Node.ownCall]
  | methodCall _ object method arguments =>
      cases method <;> simp [callsOfExpr, belowExpr, Node.memberCalls, Node.ownCall]
  | _ => simp [callsOfExpr, belowExpr, Node.memberCalls, Node.ownCall]

theorem callsOfStmt_eq_flatMap (s : Stmt) (st : State) :
    callsOfStmt false s
      = (belowStmt imports s st).flatMap fun v => v.1.memberCalls false := by
  cases s with
  | classLike kind name members =>
      cases kind with
      | interface => rfl
      | _ => exact callsOfMembers_eq_flatMap _ members _
  | _ => simp [callsOfStmt, belowStmt, Node.memberCalls]

/-- **The member calls of a node are those of its direct visits and its own.** -/
theorem Node.memberCalls_eq_flatMap (n : Node) (st : State) :
    n.memberCalls false
      = ((n.below imports st).flatMap fun v => v.1.memberCalls false) ++ n.ownCall := by
  cases n with
  | expr e => exact callsOfExpr_eq_flatMap e st
  | stmt s =>
      rw [ownCall, List.append_nil]
      · exact callsOfStmt_eq_flatMap s st
      · simp
  | parts es => cases es <;> simp [memberCalls, callsOfParts, below, ownCall]
  | stmts ss => cases ss <;> simp [memberCalls, callsOfStmts, below, ownCall]
  | arguments es =>
      cases es with
      | nil => rfl
      | cons e es =>
          -- a string literal is passed over, and it holds no call
          cases e <;> simp [memberCalls, callsOfParts, callsOfExpr, below, ownCall]

/-! ### Member calls on record -/

/-- The spans of the member calls among the records of an analysis. -/
def memberSpans (records : Analysis) : List Span :=
  (records.calls.toList.filter fun call => !call.isStatic).map Call.span

/-- A record that is not made leaves no span, nor does the record of a static call. -/
theorem memberSpans_recorded (st : State) (call? : Option Call) :
    memberSpans (st.recorded call?).records
      = memberSpans st.records ++
        (call?.toList.filter fun call => !call.isStatic).map Call.span := by
  cases call? with
  | none => simp [State.recorded]
  | some call => simp [memberSpans, State.recorded]

/-- Apart from its own record, no visit makes an act that adds to the calls. -/
theorem Act.calls_eq {done : List (Node × State)} {st st' : State}
    (h : Act imports none done st st') : st'.records.calls = st.records.calls := by
  cases h with
  | note span _ => simp
  | noteCall hcall _ => cases hcall
  | bindProperty name _ =>
      unfold State.bindProperty
      split <;> rfl
  | _ => rfl

theorem Course.memberSpans_eq {done todo : List (Node × State)} {st st' : State}
    (h : Course imports none done todo st st')
    (hvisits : ∀ v ∈ todo, memberSpans (v.1.run imports v.2).records
      = memberSpans v.2.records ++ v.1.memberCalls false) :
    memberSpans st'.records
      = memberSpans st.records ++ todo.flatMap fun v => v.1.memberCalls false := by
  induction h with
  | stop => simp
  | act ha _ ih => rw [ih hvisits, memberSpans, ha.calls_eq, ← memberSpans]
  | @visit done todo n s s' _ ih =>
      rw [ih fun v hv => hvisits v (List.mem_cons_of_mem _ hv),
        hvisits _ (List.mem_cons_self ..), List.flatMap_cons, List.append_assoc]

/-- The record of a visited member call is one of a member call, and no other record is. -/
theorem Reaches.span_callOf? {program : List Stmt} {n : Node} {st : State}
    (h : Reaches imports (.stmts program) {} n st) :
    ((n.callOf? imports st).toList.filter fun call => !call.isStatic).map Call.span
      = n.ownCall := by
  cases n with
  | expr e =>
      cases e with
      | staticCall s cls method arguments =>
          cases method with
          | named name =>
              rcases hcls : namedClass? imports st cls with _ | _ | path
              · simp [Node.callOf?, callOf?, hcls, Node.ownCall]
              · simp [Node.callOf?, callOf?, hcls, Node.ownCall]
              · simp [Node.callOf?, callOf?, hcls, Node.ownCall, callRecord, Call.isStatic,
                  CallSite.startsWith_staticSignature]
          | _ => rfl
      | methodCall s object method arguments =>
          cases method with
          | named name =>
              have hobject : Visited imports program object st :=
                h.of_below (by simp [Node.below, belowExpr])
              simp [Node.callOf?, callOf?, Node.ownCall, callRecord, Call.isStatic,
                CallSite.startsWith_memberSignature hobject.isCandidate]
          | _ => rfl
      | _ => rfl
  | _ => rfl

/-- A visit records the member calls of its node, in order. -/
theorem Reaches.memberSpans_run {program : List Stmt} {n : Node} {st : State}
    (h : Reaches imports (.stmts program) {} n st) :
    memberSpans (n.run imports st).records
      = memberSpans st.records ++ n.memberCalls false := by
  induction n, st using Node.induction imports with
  | h n st ih =>
      obtain ⟨before, hcourse, hrun⟩ := n.exists_recorded imports st
      have hbelow : memberSpans before.records
          = memberSpans st.records ++
            (n.below imports st).flatMap fun v => v.1.memberCalls false :=
        hcourse.memberSpans_eq fun v hv => ih v hv (h.of_below hv)
      rw [hrun, memberSpans_recorded, h.span_callOf?, hbelow, n.memberCalls_eq_flatMap st,
        List.append_assoc]

/-- **The member calls on record are those in the places that are looked into**, one record each,
in the order of evaluation; so every record is of a member call of the program. -/
theorem memberCalls_recorded (imports : Imports) (program : List Stmt) :
    memberSpans (ofStatements imports program) = callsOfStmts false program ∧
      (callsOfStmts false program).Sublist (callsOfStmts true program) := by
  have hprogram : Reaches imports (.stmts program) {} (.stmts program) {} := .refl _ _
  exact ⟨hprogram.memberSpans_run, callsOfStmts_sublist program⟩

/-- **A call in a subscript leaves no record**: the call of `key` is in the program, and it is not
among its records. -/
theorem call_in_subscript_unrecorded :
    callsOfStmts true (Php.parseFile "<?php $rows[$repo->key()];".toList) = [⟨12, 24⟩] ∧
      (Document.ofText "file:///a.php" "<?php $rows[$repo->key()];").analysis.calls = #[] := by
  constructor <;> decide +kernel

end Analysis

end MockLens
