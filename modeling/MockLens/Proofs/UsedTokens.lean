/-
**Used tokens: a parser takes tokens away and adds none.**

A parser that recovers leaves tokens unused and passes over others that stand in its way
(`MockLens/Php/Parser/Basic.lean`), but it never makes up a token: what it leaves is a part of what
was ahead, in the same order.  This is shown for the few parsers that look at the stream themselves
and for the ways of putting parsers together.  From there it passes to the rules of the grammar, one
after the other, as long as the rules one level further down have it.  Those for statements and
members follow in `MockLens/Proofs/ParsedNames.lean`, where it is also said what they yield.

Main definitions:

* `Parser.Consumes` — a parser leaves a sublist of the tokens ahead;
* `Rules.Consume` — so do the rules one level further down.

Main results:

* `Parser.Consumes.bind`, `Parser.Consumes.recovering`, … — the ways of putting parsers together;
* `Rules.Consume.parseExpression`, `Rules.Consume.parseParameter` — the rules for expressions and
  parameters.
-/
import MockLens.Php.Parser.ClassLike

set_option autoImplicit false

namespace MockLens.Php

/-! ### Streams -/

theorem sublist_lookAhead (n : Nat) (tokens : List Token) :
    (lookAhead n tokens).2.Sublist tokens := by
  induction tokens generalizing n with
  | nil =>
      unfold lookAhead
      exact .slnil
  | cons t rest ih =>
      rw [lookAhead.eq_def]
      dsimp only
      split
      · exact List.sublist_cons_self t rest
      · split
        · exact List.sublist_cons_self t rest
        · cases n with
          | zero => exact .refl _
          | succ n => exact (ih n).cons_cons t

theorem TokenStream.sublist_look {n : Nat} {s s' : TokenStream} {seen : Sight}
    (h : s.look n = (seen, s')) : s'.ahead.Sublist s.ahead := by
  obtain ⟨-, rfl⟩ := Prod.mk.inj h
  exact sublist_lookAhead n s.ahead

theorem mem_of_lookAhead {n : Nat} {tokens : List Token} {t : Token}
    (h : (lookAhead n tokens).1 = .token t) : t ∈ tokens := by
  induction tokens generalizing n with
  | nil => simp [lookAhead] at h
  | cons first rest ih =>
      rw [lookAhead.eq_def] at h
      dsimp only at h
      split at h
      · cases h
      · split at h
        · cases h
        · cases n with
          | zero =>
              obtain rfl := Sight.token.inj h
              exact List.mem_cons_self
          | succ n => exact List.mem_cons_of_mem _ (ih h)

/-- What is seen ahead is one of the tokens ahead. -/
theorem TokenStream.mem_of_look {n : Nat} {s s' : TokenStream} {t : Token}
    (h : s.look n = (.token t, s')) : t ∈ s.ahead :=
  mem_of_lookAhead (Prod.mk.inj h).1

theorem TokenStream.sublist_skip (s : TokenStream) : s.skip.ahead.Sublist s.ahead := by
  unfold skip
  split
  · exact .refl _
  · rename_i t rest hahead
    rw [hahead]
    exact List.sublist_cons_self t rest

theorem TokenStream.sublist_onwards (before after : TokenStream) :
    (before.onwards after).ahead.Sublist after.ahead := by
  unfold onwards
  split
  · exact after.sublist_skip
  · exact .refl _

namespace Parser

/-! ### Parsers that look at the stream -/

/-- The tokens a parser has not used, whether or not it failed. -/
def rest {α : Type} : Step α → TokenStream
  | .done _ rest => rest
  | .failed rest => rest

section Bind

variable {α β : Type} {p : Parser α} {next : α → Parser β} {s behind : TokenStream}

theorem bind_done {value : α} (h : p s = .done value behind) :
    (p >>= next) s = next value behind := by
  simp only [Bind.bind, h]

theorem bind_failed (h : p s = .failed behind) : (p >>= next) s = .failed behind := by
  simp only [Bind.bind, h]

end Bind

/-- A parser leaves a part of the tokens ahead, in their order. -/
def Consumes {α : Type} (p : Parser α) : Prop := ∀ s, (rest (p s)).ahead.Sublist s.ahead

namespace Consumes

variable {α β : Type}

@[grind .] theorem pure (value : α) : Consumes (Pure.pure value : Parser α) := fun _ => .refl _

@[grind .] theorem fail : Consumes (Parser.fail : Parser α) := fun _ => .refl _

@[grind .] theorem here : Consumes Parser.here := fun _ => .refl _

@[grind ←] theorem bind {p : Parser α} {next : α → Parser β} (hp : Consumes p)
    (hnext : ∀ value, Consumes (next value)) : Consumes (p >>= next) := by
  intro s
  have hfirst := hp s
  cases hstep : p s with
  | done value behind =>
      rw [hstep] at hfirst
      rw [bind_done hstep]
      exact (hnext value behind).trans hfirst
  | failed behind =>
      rw [hstep] at hfirst
      rw [bind_failed hstep]
      exact hfirst

@[grind .] theorem peekAt? (n : Nat) : Consumes (Parser.peekAt? n) := by
  intro s
  rw [Parser.peekAt?]
  split
  all_goals
    rename_i hlook
    exact TokenStream.sublist_look hlook

@[grind .] theorem take : Consumes Parser.take := by
  intro s
  rw [Parser.take]
  split
  · rename_i hlook
    exact (TokenStream.sublist_skip _).trans (TokenStream.sublist_look hlook)
  · rename_i hlook
    exact TokenStream.sublist_look hlook

@[grind ←] theorem attempt {p : Parser α} (hp : Consumes p) : Consumes (Parser.attempt p) := by
  intro s
  have hstep := hp s
  rw [Parser.attempt]
  cases h : p s with
  | done _ _ =>
      rw [h] at hstep
      exact hstep
  | failed _ =>
      rw [h] at hstep
      exact hstep

@[grind ←] theorem advancing {p : Parser α} (hp : Consumes p) : Consumes (Parser.advancing p) := by
  intro s
  have hstep := hp s
  rw [Parser.advancing]
  cases h : p s with
  | done _ _ =>
      rw [h] at hstep
      exact (TokenStream.sublist_onwards _ _).trans hstep
  | failed _ =>
      rw [h] at hstep
      exact hstep

@[grind ←] theorem recovering {p : Parser α} (hp : Consumes p) (stops : TokenKind → Bool) (n : Nat)
    (values : List α) : Consumes (Parser.recovering stops p n values) := by
  induction n generalizing values with
  | zero => exact pure _
  | succ n ih =>
      intro s
      rw [Parser.recovering]
      dsimp only
      split
      · rename_i hlook
        exact TokenStream.sublist_look hlook
      · rename_i hlook
        exact TokenStream.sublist_look hlook
      · rename_i t s' hlook
        have hlooked := TokenStream.sublist_look hlook
        split
        · exact hlooked
        · have hstep := hp s'
          cases h : p s' with
          | done value behind =>
              rw [h] at hstep
              exact ((ih _ _).trans (TokenStream.sublist_onwards _ _)).trans (hstep.trans hlooked)
          | failed behind =>
              rw [h] at hstep
              exact ((ih _ _).trans (TokenStream.sublist_onwards _ _)).trans (hstep.trans hlooked)

/-! ### Parsers put together -/

@[grind .] theorem peek? : Consumes Parser.peek? := peekAt? 0

@[grind .] theorem peekSecond? : Consumes Parser.peekSecond? := peekAt? 1

@[grind .] theorem peekThird? : Consumes Parser.peekThird? := peekAt? 2

@[grind .] theorem peek : Consumes Parser.peek := by
  unfold Parser.peek
  grind

@[grind .] theorem isNext (kind : TokenKind) : Consumes (Parser.isNext kind) := by
  unfold Parser.isNext
  grind

@[grind .] theorem expect (kind : TokenKind) : Consumes (Parser.expect kind) := by
  unfold Parser.expect
  grind

@[grind .] theorem symbol (text : String) : Consumes (Parser.symbol text) := expect _

@[grind .] theorem keyword (word : String) : Consumes (Parser.keyword word) := expect _

@[grind .] theorem isSecond (kind : TokenKind) : Consumes (Parser.isSecond kind) := by
  unfold Parser.isSecond
  grind

@[grind .] theorem accept (kind : TokenKind) : Consumes (Parser.accept kind) := by
  unfold Parser.accept
  grind

@[grind .] theorem word : Consumes Parser.word := by
  unfold Parser.word
  grind

@[grind .] theorem path : Consumes Parser.path := by
  unfold Parser.path
  grind

@[grind .] theorem close (closer : String) : Consumes (Parser.close closer) := by
  unfold Parser.close
  grind

@[grind .] theorem terminator : Consumes Parser.terminator := by
  unfold Parser.terminator
  grind

section Lists

variable {item : Parser α} (hitem : Consumes item)

include hitem

theorem items (closer : String) (n : Nat) (values : List α) :
    Consumes (Parser.items item closer n values) := by
  induction n generalizing values with
  | zero => exact pure _
  | succ n ih =>
      rw [Parser.items]
      grind

@[grind ←] theorem delimited (opener closer : String) (limit : Nat) :
    Consumes (Parser.delimited opener item closer limit) := by
  have hitems := hitem.items closer
  unfold Parser.delimited
  grind

@[grind ←] theorem separatedUntil (stops : TokenKind → Bool) (n : Nat) (values : List α) :
    Consumes (Parser.separatedUntil stops item n values) := by
  induction n generalizing values with
  | zero => exact pure _
  | succ n ih =>
      rw [Parser.separatedUntil]
      grind

@[grind ←] theorem separated (n : Nat) (values : List α) :
    Consumes (Parser.separated item n values) := by
  induction n generalizing values with
  | zero => exact pure _
  | succ n ih =>
      rw [Parser.separated]
      grind

end Lists

end Consumes

end Parser

/-! ### Hints -/

theorem consumes_hint (n : Nat) : Parser.Consumes (hint n) := by
  induction n with
  | zero => exact .fail
  | succ n ih =>
      rw [hint]
      refine .bind .peek fun t => ?_
      split
      · exact .fail
      · refine .bind .take fun _ => ?_
        -- what stands behind the branches is the same parser for all of them, so it comes first
        extract_lets behind
        have hbehind : ∀ left, Parser.Consumes (behind left) := by
          intro left
          dsimp only [behind]
          grind
        clear_value behind
        grind

namespace Rules

open MockLens.Php.Parser (Consumes)

/-- The rules one level further down leave a part of the tokens ahead. -/
structure Consume (r : Rules) : Prop where
  parse : ∀ goal, Consumes (r.parse goal)

/-! ### Rules that call no others -/

@[grind .] theorem consumes_argumentName : Consumes argumentName := by
  unfold argumentName
  grind

@[grind .] theorem consumes_modifiersUpTo (n : Nat) (found : List String) :
    Consumes (modifiersUpTo n found) := by
  induction n generalizing found with
  | zero => exact .pure _
  | succ n ih =>
      rw [modifiersUpTo]
      grind

@[grind .] theorem consumes_modifiers (r : Rules) : Consumes r.modifiers :=
  consumes_modifiersUpTo r.limit []

@[grind .] theorem consumes_missing (level : Nat) : Consumes (missing level) := by
  unfold missing
  grind

@[grind .] theorem consumes_capture : Consumes capture := by
  unfold capture
  grind

@[grind .] theorem consumes_ancestors (r : Rules) (word : String) :
    Consumes (r.ancestors word) := by
  unfold ancestors
  grind

@[grind .] theorem consumes_declaresClass (after : TokenKind) : Consumes (declaresClass after) := by
  unfold declaresClass
  grind

@[grind .] theorem consumes_wordName : Consumes wordName := by
  unfold wordName
  grind

@[grind .] theorem consumes_adaptedMethod : Consumes adaptedMethod := by
  unfold adaptedMethod
  grind

@[grind .] theorem consumes_visibility : Consumes visibility := by
  unfold visibility
  grind

@[grind .] theorem consumes_adaptation (r : Rules) : Consumes r.adaptation := by
  unfold adaptation
  grind

@[grind .] theorem consumes_adaptations (r : Rules) (n : Nat) : Consumes (r.adaptations n) := by
  induction n with
  | zero => exact .fail
  | succ n ih =>
      rw [adaptations]
      grind

@[grind .] theorem consumes_hint (r : Rules) : Consumes r.hint := Php.consumes_hint r.limit

@[grind .] theorem consumes_returnHint (r : Rules) : Consumes r.returnHint := by
  unfold returnHint
  grind

namespace Consume

variable {r : Rules} (h : r.Consume)

include h

/-! ### Signatures -/

@[grind ←] theorem statement : Consumes r.statement := h.parse .statement

@[grind ←] theorem expressionAt (level : Nat) : Consumes (r.expressionAt level) :=
  h.parse (.expression level)

@[grind ←] theorem expression : Consumes r.expression := h.expressionAt 0

@[grind ←] theorem member : Consumes r.member := h.parse .member

@[grind ←] theorem parameter : Consumes r.parameter := h.parse .parameter

@[grind ←] theorem block : Consumes r.block := by
  unfold Rules.block
  grind

@[grind ←] theorem parenthesised : Consumes r.parenthesised := by
  unfold Rules.parenthesised
  grind

@[grind ←] theorem argument : Consumes r.argument := by
  unfold Rules.argument
  grind

@[grind ←] theorem partialArgument : Consumes r.partialArgument := by
  unfold Rules.partialArgument
  grind

@[grind ←] theorem argumentList : Consumes r.argumentList := by
  unfold Rules.argumentList
  grind

@[grind ←] theorem optionalArguments : Consumes r.optionalArguments := by
  unfold Rules.optionalArguments
  grind

@[grind ←] theorem attributeItem : Consumes r.attributeItem := by
  unfold Rules.attributeItem
  grind

@[grind ←] theorem attributesUpTo (n : Nat) : Consumes (r.attributesUpTo n) := by
  induction n with
  | zero => exact .pure _
  | succ n ih =>
      rw [Rules.attributesUpTo]
      grind

@[grind ←] theorem attributes : Consumes r.attributes := h.attributesUpTo r.limit

@[grind ←] theorem plainParameter : Consumes r.plainParameter := by
  unfold Rules.plainParameter
  refine .bind .peek fun t => ?_
  extract_lets behind
  have hbehind : ∀ hinted, Consumes (behind hinted) := by
    intro hinted
    dsimp only [behind]
    grind
  clear_value behind
  grind

@[grind ←] theorem parameters : Consumes r.parameters := by
  unfold Rules.parameters
  grind

@[grind ←] theorem hookBody : Consumes (hook.body r) := by
  unfold Rules.hook.body
  grind

@[grind ←] theorem hook : Consumes r.hook := by
  unfold Rules.hook
  grind

@[grind ←] theorem hooksUpTo (n : Nat) : Consumes (r.hooksUpTo n) := by
  induction n with
  | zero => exact .pure _
  | succ n ih =>
      rw [Rules.hooksUpTo]
      grind

@[grind ←] theorem hooks : Consumes r.hooks := by
  unfold Rules.hooks
  grind

@[grind ←] theorem parseParameter : Consumes r.parseParameter := by
  unfold Rules.parseParameter
  grind

/-! ### Expressions -/

@[grind ←] theorem variableExpr (n : Nat) : Consumes (r.variableExpr n) := by
  induction n with
  | zero => exact .fail
  | succ n ih =>
      rw [Rules.variableExpr]
      grind

omit h in
@[grind .] theorem selectorAbsent : Consumes selector.absent := by
  unfold selector.absent
  grind

@[grind ←] theorem selector : Consumes r.selector := by
  unfold Rules.selector
  grind

@[grind ←] theorem subscript (left : Expr) : Consumes (r.subscript left) := by
  unfold Rules.subscript
  grind

@[grind ←] theorem interpolatedAccess (v : Expr) : Consumes (r.interpolatedAccess v) := by
  unfold Rules.interpolatedAccess
  grind

@[grind ←] theorem templateParts (closer : TokenKind) (n : Nat) (parts : List Expr) :
    Consumes (r.templateParts closer n parts) := by
  induction n generalizing parts with
  | zero => exact .fail
  | succ n ih =>
      rw [Rules.templateParts]
      grind

@[grind ←] theorem template (opening : Token) : Consumes (r.template opening) := by
  unfold Rules.template
  grind

@[grind ←] theorem element : Consumes r.element := by
  unfold Rules.element
  grind

@[grind ←] theorem armConditions (n : Nat) (found : List Expr) :
    Consumes (r.armConditions n found) := by
  induction n generalizing found with
  | zero => exact .fail
  | succ n ih =>
      rw [Rules.armConditions]
      grind

@[grind ←] theorem choiceArm : Consumes r.choiceArm := by
  unfold Rules.choiceArm
  grind

@[grind ←] theorem functionValue (start : Nat) : Consumes (r.functionValue start) := by
  unfold Rules.functionValue
  refine .bind (.accept _) fun _ => .bind .peek fun t => ?_
  split
  · refine .bind .take fun _ => .bind (.accept _) fun _ => .bind h.parameters fun _ => ?_
    extract_lets behind
    have hbehind : ∀ captures, Consumes (behind captures) := by
      intro captures
      dsimp only [behind]
      grind
    clear_value behind
    grind
  · refine .bind (.keyword _) fun _ => .bind (.accept _) fun _ => ?_
    grind

@[grind ←] theorem memberBlock : Consumes r.memberBlock := by
  unfold Rules.memberBlock
  grind

@[grind ←] theorem instantiation (after : Option TokenKind) : Consumes (r.instantiation after) := by
  unfold Rules.instantiation
  extract_lets behind
  have hbehind : ∀ declares, Consumes (behind declares) := by
    intro declares
    refine .bind .take fun first => ?_
    split
    · refine .bind h.attributes fun _ => .bind (consumes_modifiers r) fun _ =>
        .bind (.keyword _) fun _ => .bind h.optionalArguments fun _ => ?_
      grind
    · grind
  clear_value behind
  grind

@[grind ←] theorem callWith (left : Expr) (build : Span → List Expr → Expr) :
    Consumes (r.callWith left build) := by
  unfold Rules.callWith
  grind

@[grind ←] theorem arrowAccess (level : Nat) (left : Expr) :
    Consumes (r.arrowAccess level left) := by
  unfold Rules.arrowAccess
  grind

@[grind ←] theorem staticAccess (level : Nat) (left : Expr) :
    Consumes (r.staticAccess level left) := by
  unfold Rules.staticAccess
  grind

@[grind ←] theorem conditional (left : Expr) : Consumes (r.conditional left) := by
  unfold Rules.conditional
  grind

theorem suffix {level : Nat} {left : Expr} {t : Token} {rule : Parser Expr}
    (hrule : r.suffix level left t = some rule) : Consumes rule := by
  unfold Rules.suffix at hrule
  grind

@[grind ←] theorem climb (level n : Nat) (left : Expr) : Consumes (r.climb level n left) := by
  induction n generalizing left with
  | zero => exact .pure _
  | succ n ih =>
      rw [Rules.climb]
      grind [h.suffix]

@[grind ←] theorem copy (after : Option TokenKind) : Consumes (r.copy after) := by
  unfold Rules.copy
  grind

@[grind ←] theorem yielding : Consumes r.yielding := by
  unfold Rules.yielding
  refine .bind .take fun first => .bind (.accept _) fun isFrom => ?_
  split
  · grind
  · refine .bind .peek? fun t => ?_
    grind

@[grind ←] theorem query : Consumes r.query := by
  unfold Rules.query
  grind

@[grind ←] theorem queryOne : Consumes r.queryOne := by
  unfold Rules.queryOne
  grind

@[grind ←] theorem exiting : Consumes r.exiting := by
  unfold Rules.exiting
  grind

@[grind ←] theorem keywordOperand (level : Nat) (t : Token) (after : Option TokenKind)
    (word : String) : Consumes (r.keywordOperand level t after word) := by
  unfold Rules.keywordOperand keywordOperand.literal keywordOperand.magic keywordOperand.classWord
    keywordOperand.unvisited
  grind

@[grind ←] theorem prefixed (level : Nat) (t : Token) :
    Consumes (plainOperand.prefixed r level t) := by
  unfold plainOperand.prefixed
  grind

@[grind ←] theorem plainOperand (level : Nat) (t : Token) : Consumes (r.plainOperand level t) := by
  unfold Rules.plainOperand
  grind

@[grind ←] theorem operand (level : Nat) : Consumes (r.operand level) := by
  unfold Rules.operand
  grind

@[grind ←] theorem parseExpression (level : Nat) : Consumes (r.parseExpression level) := by
  unfold Rules.parseExpression
  grind

/-! ### Parts of members -/

@[grind ←] theorem constantItem : Consumes r.constantItem := by
  unfold Rules.constantItem
  grind

@[grind ←] theorem propertyItem : Consumes r.propertyItem := by
  unfold Rules.propertyItem
  grind

end Consume

end Rules

end MockLens.Php
