/-
**Leaves: what a tree has from single tokens.**

The strings of a program tree are each read from one token, and so are the names it declares and
those behind an arrow or a double colon (`MockLens/Php/Tree.lean`).  This module says what it means
that all of them are as a predicate says, for every kind of tree and for the values that the rules
of the grammar pass on between them, such as lists of expressions or a token that was only looked
at.  It is said of a value by its parts, so that a rule which puts a tree together from what other
rules yield has nothing more to show.

Main definitions:

* `Leaf` — a string literal or a name;
* `Token.leaf?` — the leaf that a token becomes;
* `Expr.EachLeaf`, `Stmt.EachLeaf`, `Member.EachLeaf`, `Selector.EachLeaf` — every leaf of a tree is
  as a predicate says;
* `HasLeaves`, `NoLeaves` — the same for the values that are passed on, and values without leaves.
-/
import MockLens.Php.Parser.Basic
import MockLens.Php.Quoted

set_option autoImplicit false

namespace MockLens.Php

/-! ### Leaves of tokens -/

/-- What is read from a single token. -/
inductive Leaf where
  | string (span : Span) (value : Option String)
  | name (name : Identifier)
  deriving DecidableEq, Repr

/-- The leaf that a token becomes, if it is a string or a word. -/
def Token.leaf? (t : Token) : Option Leaf :=
  if t.kind = .quoted then some (.string t.span (Quoted.value t.text))
  else if Parser.isWord t.kind = true then some (.name ⟨t.text, t.span⟩)
  else none

/-! ### Leaves of trees -/

section Trees

variable (G : Leaf → Prop)

mutual

/-- The strings and the names behind arrows in an expression are as `G` says.  A name that is an
expression itself need not be a word. -/
@[grind] def Expr.EachLeaf : Expr → Prop
  | .var _ _ => True
  | .string span value => G (.string span value)
  | .name _ _ => True
  | .classWord _ _ => True
  | .paren _ inner => inner.EachLeaf
  | .assign _ _ target value => target.EachLeaf ∧ value.EachLeaf
  | .conditional _ condition yes no => condition.EachLeaf ∧ yes.EachLeaf ∧ no.EachLeaf
  | .orElse _ condition no => condition.EachLeaf ∧ no.EachLeaf
  | .operation _ _ parts => eachLeafOfExprs parts
  | .arm _ conditions body => eachLeafOfExprs conditions ∧ body.EachLeaf
  | .clone _ object => object.EachLeaf
  | .new _ cls arguments => cls.EachLeaf ∧ eachLeafOfExprs arguments
  | .newAnonymous _ arguments members => eachLeafOfExprs arguments ∧ eachLeafOfMembers members
  | .closure _ _ _ body => eachLeafOfStmts body
  | .arrow _ _ body => body.EachLeaf
  | .call _ callee arguments => callee.EachLeaf ∧ eachLeafOfExprs arguments
  | .staticCall _ cls method arguments =>
    cls.EachLeaf ∧ method.EachLeaf ∧ eachLeafOfExprs arguments
  | .methodCall _ object method arguments =>
    object.EachLeaf ∧ method.EachLeaf ∧ eachLeafOfExprs arguments
  | .property _ _ object name => object.EachLeaf ∧ name.EachLeaf
  | .classMember _ cls => cls.EachLeaf
  | .construct _ _ parts => eachLeafOfExprs parts

/-- The strings and names behind an arrow are as `G` says. -/
@[grind] def Selector.EachLeaf : Selector → Prop
  | .named name => G (.name name)
  | .computed value => value.EachLeaf
  | .missing => True

/-- The strings and names in a statement are as `G` says.  Of the names an import takes in no place
is kept. -/
@[grind] def Stmt.EachLeaf : Stmt → Prop
  | .scope _ body => eachLeafOfStmts body
  | .imports _ => True
  | .classLike _ name members => G (.name name) ∧ eachLeafOfMembers members
  | .function name _ body => G (.name name) ∧ eachLeafOfStmts body
  | .evaluate _ values => eachLeafOfExprs values
  | .block body => eachLeafOfStmts body
  | .ifElse condition yes no => condition.EachLeaf ∧ eachLeafOfStmts yes ∧ eachLeafOfStmts no
  | .foreachLoop subject targets body =>
    subject.EachLeaf ∧ eachLeafOfExprs targets ∧ eachLeafOfStmts body
  | .forLoop initial conditions increments body =>
    eachLeafOfExprs initial ∧ eachLeafOfExprs conditions ∧ eachLeafOfExprs increments ∧
      eachLeafOfStmts body
  | .whileLoop condition body => condition.EachLeaf ∧ eachLeafOfStmts body
  | .doWhileLoop body condition => eachLeafOfStmts body ∧ condition.EachLeaf
  | .guarded body handlers => eachLeafOfStmts body ∧ eachLeafOfStmts handlers
  | .handler _ body => eachLeafOfStmts body
  | .switch subject cases => subject.EachLeaf ∧ eachLeafOfStmts cases
  | .case label body => eachLeafOfExprs label ∧ eachLeafOfStmts body
  | .inert parts body => eachLeafOfExprs parts ∧ eachLeafOfStmts body

/-- The strings and names in a member of a class-like are as `G` says. -/
@[grind] def Member.EachLeaf : Member → Prop
  | .property _ _ => True
  | .method name _ _ body => G (.name name) ∧ eachLeafOfStmts body
  | .other => True

/-- The strings and names in several expressions are as `G` says. -/
@[grind] def eachLeafOfExprs : List Expr → Prop
  | [] => True
  | e :: es => e.EachLeaf ∧ eachLeafOfExprs es

/-- The strings and names in several statements are as `G` says. -/
@[grind] def eachLeafOfStmts : List Stmt → Prop
  | [] => True
  | s :: ss => s.EachLeaf ∧ eachLeafOfStmts ss

/-- The strings and names in several members are as `G` says. -/
@[grind] def eachLeafOfMembers : List Member → Prop
  | [] => True
  | m :: ms => m.EachLeaf ∧ eachLeafOfMembers ms

end

end Trees

/-! ### Leaves of values -/

/-- Values in which leaves are passed on. -/
class HasLeaves (α : Type) where
  /-- Every leaf of a value is as a predicate says. -/
  EachLeaf (G : Leaf → Prop) : α → Prop

export HasLeaves (EachLeaf)

/-- Values of a type that never has leaves. -/
class NoLeaves (α : Type) [HasLeaves α] : Prop where
  eachLeaf : ∀ (G : Leaf → Prop) (value : α), EachLeaf G value

attribute [grind .] NoLeaves.eachLeaf

instance : HasLeaves Token := ⟨fun G t => ∀ leaf, t.leaf? = some leaf → G leaf⟩

instance : HasLeaves Identifier := ⟨fun G name => G (.name name)⟩

instance : HasLeaves Expr := ⟨Expr.EachLeaf⟩

instance : HasLeaves Selector := ⟨Selector.EachLeaf⟩

instance : HasLeaves Stmt := ⟨Stmt.EachLeaf⟩

instance : HasLeaves Member := ⟨Member.EachLeaf⟩

section Leafless

/-- The leaves of values that have none. -/
abbrev HasLeaves.none (α : Type) : HasLeaves α := ⟨fun _ _ => True⟩

instance : HasLeaves Unit := .none _

instance : HasLeaves Bool := .none _

instance : HasLeaves Nat := .none _

instance : HasLeaves String := .none _

instance : HasLeaves Hint := .none _

instance : HasLeaves Parameter := .none _

instance : HasLeaves ImportItem := .none _

instance : NoLeaves Unit := ⟨fun _ _ => trivial⟩

instance : NoLeaves Bool := ⟨fun _ _ => trivial⟩

instance : NoLeaves Nat := ⟨fun _ _ => trivial⟩

instance : NoLeaves String := ⟨fun _ _ => trivial⟩

instance : NoLeaves Hint := ⟨fun _ _ => trivial⟩

instance : NoLeaves Parameter := ⟨fun _ _ => trivial⟩

instance : NoLeaves ImportItem := ⟨fun _ _ => trivial⟩

end Leafless

section Combined

variable {α β : Type} [HasLeaves α] [HasLeaves β] {G : Leaf → Prop}

instance : HasLeaves (List α) := ⟨fun G values => ∀ v ∈ values, EachLeaf G v⟩

instance : HasLeaves (Option α) := ⟨fun G value => ∀ v, value = some v → EachLeaf G v⟩

instance : HasLeaves (α × β) := ⟨fun G pair => EachLeaf G pair.1 ∧ EachLeaf G pair.2⟩

instance [NoLeaves α] : NoLeaves (List α) := ⟨fun G _ v _ => NoLeaves.eachLeaf G v⟩

instance [NoLeaves α] : NoLeaves (Option α) := ⟨fun G _ v _ => NoLeaves.eachLeaf G v⟩

@[grind .] theorem eachLeaf_nil : EachLeaf G ([] : List α) := fun _ hv => by cases hv

@[grind =] theorem eachLeaf_cons {v : α} {vs : List α} :
    EachLeaf G (v :: vs) ↔ EachLeaf G v ∧ EachLeaf G vs := List.forall_mem_cons

@[grind =] theorem eachLeaf_reverse {vs : List α} : EachLeaf G vs.reverse ↔ EachLeaf G vs :=
  forall_congr' fun _ => imp_congr_left List.mem_reverse

@[grind .] theorem eachLeaf_none : EachLeaf G (none : Option α) := fun _ hv => by cases hv

@[grind =] theorem eachLeaf_some {v : α} : EachLeaf G (some v) ↔ EachLeaf G v :=
  ⟨fun h => h v rfl, fun h _ hv => Option.some.inj hv ▸ h⟩

@[grind =] theorem eachLeaf_pair {v : α} {w : β} :
    EachLeaf G (v, w) ↔ EachLeaf G v ∧ EachLeaf G w := Iff.rfl

@[grind ←] theorem eachLeaf_filterMap_id {vs : List (Option α)} (h : EachLeaf G vs) :
    EachLeaf G (vs.filterMap id) := by
  intro v hv
  obtain ⟨value, hvalue, rfl⟩ := List.mem_filterMap.1 hv
  exact h _ hvalue v rfl

@[grind ←] theorem eachLeaf_flatten {vs : List (List α)} (h : EachLeaf G vs) :
    EachLeaf G vs.flatten := by
  intro v hv
  obtain ⟨values, hvalues, hv⟩ := List.mem_flatten.1 hv
  exact h values hvalues v hv

/-- The values of a list that may be missing. -/
@[grind ←] theorem eachLeaf_getD_map_fst {value : Option (List α × β)} (h : EachLeaf G value) :
    EachLeaf G ((value.map Prod.fst).getD []) := by
  cases value with
  | none => exact eachLeaf_nil
  | some pair => exact (h pair rfl).1

end Combined

/-! ### Leaves of parts -/

section Parts

variable {G : Leaf → Prop}

@[grind =] theorem eachLeaf_expr {e : Expr} : EachLeaf G e ↔ e.EachLeaf G := Iff.rfl

@[grind =] theorem eachLeaf_selector {s : Selector} : EachLeaf G s ↔ s.EachLeaf G := Iff.rfl

@[grind =] theorem eachLeaf_stmt {s : Stmt} : EachLeaf G s ↔ s.EachLeaf G := Iff.rfl

@[grind =] theorem eachLeaf_member {m : Member} : EachLeaf G m ↔ m.EachLeaf G := Iff.rfl

@[grind =] theorem eachLeaf_identifier {name : Identifier} : EachLeaf G name ↔ G (.name name) :=
  Iff.rfl

@[grind =] theorem eachLeafOfExprs_iff {es : List Expr} : eachLeafOfExprs G es ↔ EachLeaf G es := by
  induction es with
  | nil => exact iff_of_true trivial eachLeaf_nil
  | cons e es ih => rw [eachLeafOfExprs, ih, eachLeaf_cons, eachLeaf_expr]

@[grind =] theorem eachLeafOfStmts_iff {ss : List Stmt} : eachLeafOfStmts G ss ↔ EachLeaf G ss := by
  induction ss with
  | nil => exact iff_of_true trivial eachLeaf_nil
  | cons s ss ih => rw [eachLeafOfStmts, ih, eachLeaf_cons, eachLeaf_stmt]

@[grind =] theorem eachLeafOfMembers_iff {ms : List Member} :
    eachLeafOfMembers G ms ↔ EachLeaf G ms := by
  induction ms with
  | nil => exact iff_of_true trivial eachLeaf_nil
  | cons m ms ih => rw [eachLeafOfMembers, ih, eachLeaf_cons, eachLeaf_member]

/-- A string token becomes a string. -/
@[grind →] theorem string_of_token {t : Token} (h : EachLeaf G t) (hkind : t.kind = .quoted) :
    G (.string t.span (Quoted.value t.text)) := h _ (if_pos hkind)

/-- A word becomes a name. -/
@[grind →] theorem name_of_token {t : Token} (h : EachLeaf G t)
    (hword : Parser.isWord t.kind = true) : G (.name ⟨t.text, t.span⟩) := by
  refine h _ ?_
  have hkind : t.kind ≠ .quoted := by
    intro hquoted
    rw [hquoted] at hword
    cases hword
  rw [Token.leaf?, if_neg hkind, if_pos hword]

end Parts

end MockLens.Php
