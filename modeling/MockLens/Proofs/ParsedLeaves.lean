/-
**Parsed leaves: what a program has from its text.**

A parser makes up no string and no name: it takes them over from a token that was ahead.  This is
shown for the parsers that look at the stream, for the ways of putting parsers together, and from
there for the rules of the grammar one after the other, as long as the rules one level further down
are so.  As in `MockLens/Proofs/ParsedNames.lean` a single induction on the level ties the knot.
Here every rule has something to show, since there may be a string in every expression, and a rule
passes on what it was given as well: an operand stands in the tree of the operators behind it.

Main definitions:

* `Parser.Draws` — the leaves of what a parser yields are among those of the tokens ahead;
* `Rules.Draw` — so are they for the rules one level further down;
* `Leaf.IsFrom` — a leaf is what one of several tokens becomes.

Main results:

* `Parser.Draws.bind`, `Parser.Draws.recovering`, … — the ways of putting parsers together;
* `Rules.Draw.parseExpression`, `Rules.Draw.parseStatement`, `Rules.Draw.parseMember` — the rules;
* `draw_ruleAt` — their levels;
* `eachLeaf_parseFile` — **every leaf of a parsed file is what one of its tokens becomes.**
-/
import MockLens.Proofs.Leaves
import MockLens.Proofs.ParsedNames

set_option autoImplicit false

namespace MockLens.Php

open MockLens.Php.Parser (Consumes)

/-! ### Values of parsers -/

section Streams

variable {α : Type} [HasLeaves α] {G : Leaf → Prop}

theorem eachLeaf_of_sublist {vs ws : List α} (h : EachLeaf G ws) (hsub : vs.Sublist ws) :
    EachLeaf G vs := fun v hv => h v (hsub.subset hv)

/-- The leaves of the tokens ahead. -/
instance : HasLeaves TokenStream := ⟨fun G s => EachLeaf G s.ahead⟩

/-- The leaves of the value, if there is one, and of the tokens not used. -/
instance : HasLeaves (Step α) :=
  ⟨fun G step =>
    match step with
    | .done value rest => EachLeaf G value ∧ EachLeaf G rest
    | .failed rest => EachLeaf G rest⟩

theorem eachLeaf_done {value : α} {rest : TokenStream} :
    EachLeaf G (Step.done value rest) ↔ EachLeaf G value ∧ EachLeaf G rest := Iff.rfl

theorem eachLeaf_failed {rest : TokenStream} :
    EachLeaf G (Step.failed rest : Step α) ↔ EachLeaf G rest := Iff.rfl

theorem TokenStream.eachLeaf_look {s s' : TokenStream} {n : Nat} {seen : Sight}
    (hs : EachLeaf G s) (h : s.look n = (seen, s')) : EachLeaf G s' :=
  eachLeaf_of_sublist hs (TokenStream.sublist_look h)

theorem TokenStream.eachLeaf_onwards {before after : TokenStream} (h : EachLeaf G after) :
    EachLeaf G (before.onwards after) := eachLeaf_of_sublist h (TokenStream.sublist_onwards _ _)

end Streams

namespace Parser

/-- If the leaves of the tokens ahead are as a predicate says, those of what a parser yields and of
the tokens it leaves are. -/
def Draws {α : Type} [HasLeaves α] (G : Leaf → Prop) (p : Parser α) : Prop :=
  ∀ s : TokenStream, EachLeaf G s → EachLeaf G (p s)

namespace Draws

section Steps

variable {α β : Type} [HasLeaves α] [HasLeaves β] {G : Leaf → Prop} {p : Parser α}

@[grind ←] theorem of_consumes [NoLeaves α] (h : Consumes p) : Draws G p := by
  intro s hs
  have hleft : EachLeaf G (rest (p s)) := eachLeaf_of_sublist hs (h s)
  cases hstep : p s with
  | done value behind =>
      rw [hstep] at hleft
      exact ⟨NoLeaves.eachLeaf G value, hleft⟩
  | failed behind =>
      rw [hstep] at hleft
      exact hleft

@[grind ←] theorem pure {value : α} (h : EachLeaf G value) :
    Draws G (Pure.pure value : Parser α) := fun _ hs => ⟨h, hs⟩

@[grind ←] theorem pure_expr {e : Expr} (h : e.EachLeaf G) :
    Draws G (Pure.pure e : Parser Expr) := pure h

@[grind ←] theorem pure_stmt {statement : Stmt} (h : statement.EachLeaf G) :
    Draws G (Pure.pure statement : Parser Stmt) := pure h

@[grind ←] theorem pure_member {member : Member} (h : member.EachLeaf G) :
    Draws G (Pure.pure member : Parser Member) := pure h

@[grind .] theorem fail : Draws G (Parser.fail : Parser α) := fun _ hs => hs

/-- A parser behind another one relies on the value that one yields. -/
@[grind ←] theorem bind {next : α → Parser β} (hp : Draws G p)
    (hnext : ∀ v, EachLeaf G v → Draws G (next v)) : Draws G (p >>= next) := by
  intro s hs
  have hfirst := hp s hs
  cases hstep : p s with
  | done value between =>
      rw [hstep, eachLeaf_done] at hfirst
      rw [bind_done hstep]
      exact hnext value hfirst.1 between hfirst.2
  | failed between =>
      rw [hstep] at hfirst
      rw [bind_failed hstep]
      exact hfirst

/-- A parser may be followed by one that does not rely on its value. -/
theorem bind_any {γ : Type} {q : Parser γ} {next : γ → Parser β} (hq : Consumes q)
    (hnext : ∀ v, Draws G (next v)) : Draws G (q >>= next) := by
  let _ : HasLeaves γ := .none γ
  have _ : NoLeaves γ := ⟨fun _ _ => trivial⟩
  exact .bind (of_consumes hq) fun v _ => hnext v

@[grind .] theorem peekAt? (n : Nat) : Draws G (Parser.peekAt? n) := by
  intro s hs
  rw [Parser.peekAt?]
  split
  · rename_i t s' hlook
    exact ⟨eachLeaf_some.2 (hs t (TokenStream.mem_of_look hlook)),
      TokenStream.eachLeaf_look hs hlook⟩
  · exact ⟨eachLeaf_none, TokenStream.eachLeaf_look hs ‹_›⟩
  · exact TokenStream.eachLeaf_look hs ‹_›

@[grind .] theorem take : Draws G Parser.take := by
  intro s hs
  rw [Parser.take]
  split
  · rename_i t s' hlook
    exact ⟨hs t (TokenStream.mem_of_look hlook),
      eachLeaf_of_sublist (TokenStream.eachLeaf_look hs hlook) s'.sublist_skip⟩
  · exact TokenStream.eachLeaf_look hs ‹_›

@[grind ←] theorem attempt (hp : Draws G p) : Draws G (Parser.attempt p) := by
  intro s hs
  have hstep := hp s hs
  rw [Parser.attempt]
  cases h : p s with
  | done value behind =>
      rw [h, eachLeaf_done] at hstep
      exact ⟨eachLeaf_some.2 hstep.1, hstep.2⟩
  | failed behind =>
      rw [h] at hstep
      exact ⟨eachLeaf_none, hstep⟩

@[grind ←] theorem advancing (hp : Draws G p) : Draws G (Parser.advancing p) := by
  intro s hs
  have hstep := hp s hs
  rw [Parser.advancing]
  cases h : p s with
  | done value behind =>
      rw [h, eachLeaf_done] at hstep
      exact ⟨hstep.1, TokenStream.eachLeaf_onwards hstep.2⟩
  | failed behind =>
      rw [h] at hstep
      exact hstep

@[grind ←] theorem recovering (hp : Draws G p) (stops : TokenKind → Bool) (n : Nat)
    {values : List α} (hvalues : EachLeaf G values) :
    Draws G (Parser.recovering stops p n values) := by
  induction n generalizing values with
  | zero => exact .pure (eachLeaf_reverse.2 hvalues)
  | succ n ih =>
      intro s hs
      rw [Parser.recovering]
      dsimp only
      split
      · exact ⟨eachLeaf_reverse.2 hvalues, TokenStream.eachLeaf_look hs ‹_›⟩
      · exact TokenStream.eachLeaf_look hs ‹_›
      · rename_i t s' hlook
        have hs' := TokenStream.eachLeaf_look hs hlook
        split
        · exact ⟨eachLeaf_reverse.2 hvalues, hs'⟩
        · -- the next value, if there is one, joins the others
          have hstep := hp s' hs'
          cases h : p s' with
          | done value behind =>
              rw [h, eachLeaf_done] at hstep
              exact ih (eachLeaf_cons.2 ⟨hstep.1, hvalues⟩) _
                (TokenStream.eachLeaf_onwards hstep.2)
          | failed behind =>
              rw [h] at hstep
              exact ih hvalues _ (TokenStream.eachLeaf_onwards (eachLeaf_failed.1 hstep))

end Steps

/-! ### Parsers put together -/

section Together

variable {G : Leaf → Prop}

@[grind .] theorem peek? : Draws G Parser.peek? := peekAt? 0

@[grind .] theorem peekSecond? : Draws G Parser.peekSecond? := peekAt? 1

@[grind .] theorem peek : Draws G Parser.peek := by
  unfold Parser.peek
  grind

@[grind .] theorem expect (kind : TokenKind) : Draws G (Parser.expect kind) := by
  unfold Parser.expect
  grind

@[grind .] theorem symbol (text : String) : Draws G (Parser.symbol text) := expect _

@[grind .] theorem keyword (word : String) : Draws G (Parser.keyword word) := expect _

@[grind .] theorem word : Draws G Parser.word := by
  unfold Parser.word
  grind

section Lists

variable {α : Type} [HasLeaves α] {item : Parser α} (hitem : Draws G item)

include hitem

theorem items (closer : String) (n : Nat) {values : List α} (hvalues : EachLeaf G values) :
    Draws G (Parser.items item closer n values) := by
  induction n generalizing values with
  | zero => exact .pure (eachLeaf_reverse.2 hvalues)
  | succ n ih =>
      rw [Parser.items]
      grind

@[grind ←] theorem delimited (opener closer : String) (limit : Nat) :
    Draws G (Parser.delimited opener item closer limit) := by
  have hitems := hitem.items closer
  unfold Parser.delimited
  grind

@[grind ←] theorem separatedUntil (stops : TokenKind → Bool) (n : Nat) {values : List α}
    (hvalues : EachLeaf G values) : Draws G (Parser.separatedUntil stops item n values) := by
  induction n generalizing values with
  | zero => exact .pure (eachLeaf_reverse.2 hvalues)
  | succ n ih =>
      rw [Parser.separatedUntil]
      grind

@[grind ←] theorem separated (n : Nat) {values : List α} (hvalues : EachLeaf G values) :
    Draws G (Parser.separated item n values) := by
  induction n generalizing values with
  | zero => exact .pure (eachLeaf_reverse.2 hvalues)
  | succ n ih =>
      rw [Parser.separated]
      grind

end Lists

end Together

end Draws

end Parser

/-! ### Rules -/

namespace Rules

open MockLens.Php.Parser (Draws)

variable {G : Leaf → Prop}

/-- The rules one level further down leave a part of the tokens ahead, and the leaves of what they
yield are as `G` says if those of the tokens ahead are. -/
structure Draw (G : Leaf → Prop) (r : Rules) : Prop where
  consume : r.Consume
  statement : Draws G r.statement
  expressionAt : ∀ level, Draws G (r.expressionAt level)
  member : Draws G r.member

namespace Draw

variable {r : Rules} (h : r.Draw G)

include h

attribute [grind →] consume
attribute [grind ←] statement expressionAt member

@[grind ←] theorem expression : Draws G r.expression := h.expressionAt 0

@[grind ←] theorem block : Draws G r.block := by
  unfold Rules.block
  grind

@[grind ←] theorem parenthesised : Draws G r.parenthesised := by
  unfold Rules.parenthesised
  grind

@[grind ←] theorem argument : Draws G r.argument := by
  unfold Rules.argument
  grind

@[grind ←] theorem partialArgument : Draws G r.partialArgument := by
  unfold Rules.partialArgument
  grind

@[grind ←] theorem argumentList : Draws G r.argumentList := by
  unfold Rules.argumentList
  grind

@[grind ←] theorem optionalArguments : Draws G r.optionalArguments := by
  unfold Rules.optionalArguments
  grind

/-! ### Expressions -/

omit h in
@[grind .] theorem missing (level : Nat) : Draws G (Rules.missing level) := by
  unfold Rules.missing
  grind

@[grind ←] theorem variableExpr (n : Nat) : Draws G (r.variableExpr n) := by
  induction n with
  | zero => exact .fail
  | succ n ih =>
      rw [Rules.variableExpr]
      grind

omit h in
@[grind .] theorem selectorAbsent : Draws G selector.absent := by
  unfold selector.absent
  grind

@[grind ←] theorem selector : Draws G r.selector := by
  unfold Rules.selector
  refine .bind .peek? fun t ht => ?_
  split
  · exact selectorAbsent
  · grind

@[grind ←] theorem subscript {left : Expr} (hleft : left.EachLeaf G) :
    Draws G (r.subscript left) := by
  unfold Rules.subscript
  refine .bind .take fun _ _ => .bind .peek fun t ht => ?_
  grind

@[grind ←] theorem interpolatedAccess {v : Expr} (hv : v.EachLeaf G) :
    Draws G (r.interpolatedAccess v) := by
  unfold Rules.interpolatedAccess
  refine .bind .peek? fun t _ => ?_
  grind

@[grind ←] theorem templateParts (closer : TokenKind) (n : Nat) {parts : List Expr}
    (hparts : EachLeaf G parts) : Draws G (r.templateParts closer n parts) := by
  induction n generalizing parts with
  | zero => exact .fail
  | succ n ih =>
      rw [Rules.templateParts]
      refine .bind .peek fun t _ => ?_
      grind

@[grind ←] theorem template (opening : Token) : Draws G (r.template opening) := by
  unfold Rules.template
  refine .bind .take fun _ _ => ?_
  extract_lets closer
  exact .bind (h.templateParts _ _ eachLeaf_nil) fun parts hparts => by grind

@[grind ←] theorem element : Draws G r.element := by
  unfold Rules.element
  refine .bind .peek fun t _ => ?_
  grind

@[grind ←] theorem armConditions (n : Nat) {found : List Expr} (hfound : EachLeaf G found) :
    Draws G (r.armConditions n found) := by
  induction n generalizing found with
  | zero => exact .fail
  | succ n ih =>
      rw [Rules.armConditions]
      grind

@[grind ←] theorem choiceArm : Draws G r.choiceArm := by
  unfold Rules.choiceArm
  refine .bind .peek fun t _ => ?_
  grind

@[grind ←] theorem functionValue (start : Nat) : Draws G (r.functionValue start) := by
  unfold Rules.functionValue
  refine .bind (.of_consumes (.accept _)) fun _ _ => .bind .peek fun t _ => ?_
  split
  · refine .bind .take fun _ _ => .bind (.of_consumes (.accept _)) fun _ _ =>
      .bind (.of_consumes h.consume.parameters) fun _ _ => ?_
    extract_lets behind
    have hbehind : ∀ captures, Draws G (behind captures) := by
      intro captures
      dsimp only [behind]
      refine .bind (.of_consumes (consumes_returnHint r)) fun _ _ => .bind (.symbol _) fun _ _ => ?_
      grind
    clear_value behind
    grind
  · refine .bind (.keyword _) fun _ _ => .bind (.of_consumes (.accept _)) fun _ _ => ?_
    grind

@[grind ←] theorem memberBlock : Draws G r.memberBlock := by
  unfold Rules.memberBlock
  grind

@[grind ←] theorem instantiation (after : Option TokenKind) : Draws G (r.instantiation after) := by
  unfold Rules.instantiation
  extract_lets behind
  have hbehind : ∀ declares, Draws G (behind declares) := by
    intro declares
    refine .bind .take fun first _ => ?_
    split
    · refine .bind (.of_consumes h.consume.attributes) fun _ _ =>
        .bind (.of_consumes (consumes_modifiers r)) fun _ _ => .bind (.keyword _) fun _ _ =>
        .bind h.optionalArguments fun _ _ => ?_
      grind
    · grind
  clear_value behind
  grind

@[grind ←] theorem callWith {left : Expr} (hleft : left.EachLeaf G)
    {build : Span → List Expr → Expr}
    (hbuild : ∀ span values, EachLeaf G values → (build span values).EachLeaf G) :
    Draws G (r.callWith left build) := by
  unfold Rules.callWith callOf
  grind

@[grind ←] theorem arrowAccess (level : Nat) {left : Expr} (hleft : left.EachLeaf G) :
    Draws G (r.arrowAccess level left) := by
  unfold Rules.arrowAccess
  grind

@[grind ←] theorem staticAccess (level : Nat) {left : Expr} (hleft : left.EachLeaf G) :
    Draws G (r.staticAccess level left) := by
  unfold Rules.staticAccess
  grind

@[grind ←] theorem conditional {left : Expr} (hleft : left.EachLeaf G) :
    Draws G (r.conditional left) := by
  unfold Rules.conditional
  grind

omit h in
@[grind ←] theorem assignTo (plain : Bool) {value : Expr} (hvalue : value.EachLeaf G) (n : Nat)
    {target : Expr} (htarget : target.EachLeaf G) :
    (Php.assignTo plain value n target).EachLeaf G := by
  fun_induction Php.assignTo plain value n target <;> grind

theorem suffix {level : Nat} {left : Expr} (hleft : left.EachLeaf G) {t : Token}
    {rule : Parser Expr} (hrule : r.suffix level left t = some rule) : Draws G rule := by
  unfold Rules.suffix at hrule
  split at hrule
  · grind
  · grind
  · grind
  · grind
  · grind
  · grind
  · -- an increment, an assignment, an operator between two operands
    split at hrule
    · grind
    · split at hrule
      · grind
      · split at hrule
        · split at hrule
          · obtain rfl := Option.some.inj hrule
            exact .bind .take fun op _ => .bind (h.expressionAt _) fun right _ => by grind
          · cases hrule
        · cases hrule

@[grind ←] theorem climb (level n : Nat) {left : Expr} (hleft : left.EachLeaf G) :
    Draws G (r.climb level n left) := by
  induction n generalizing left with
  | zero => exact .pure hleft
  | succ n ih =>
      rw [Rules.climb]
      grind [h.suffix]

@[grind ←] theorem copy (after : Option TokenKind) : Draws G (r.copy after) := by
  unfold Rules.copy callOf
  refine .bind .take fun first _ => ?_
  split
  · refine .bind .take fun t _ => .bind (.of_consumes (.isNext _)) fun spreads _ =>
      .bind (.separatedUntil h.partialArgument _ _ eachLeaf_nil) fun values _ => ?_
    refine .bind (.symbol _) fun last _ => ?_
    grind
  · grind

@[grind ←] theorem yielding : Draws G r.yielding := by
  unfold Rules.yielding
  refine .bind .take fun first _ => .bind (.of_consumes (.accept _)) fun isFrom _ => ?_
  split
  · grind
  · refine .bind .peek? fun t _ => ?_
    split
    · grind
    · split
      · grind
      · rename_i hother
        clear hother
        grind

@[grind ←] theorem query : Draws G r.query := by
  unfold Rules.query
  grind

@[grind ←] theorem queryOne : Draws G r.queryOne := by
  unfold Rules.queryOne
  grind

@[grind ←] theorem exiting : Draws G r.exiting := by
  unfold Rules.exiting
  grind

omit h in
@[grind .] theorem wordName : Draws G Rules.wordName := by
  unfold Rules.wordName
  grind

@[grind ←] theorem keywordOperand (level : Nat) (t : Token) (after : Option TokenKind)
    (word : String) : Draws G (r.keywordOperand level t after word) := by
  unfold Rules.keywordOperand keywordOperand.literal keywordOperand.magic keywordOperand.classWord
    keywordOperand.unvisited
  grind

@[grind ←] theorem prefixed (level : Nat) (t : Token) :
    Draws G (plainOperand.prefixed r level t) := by
  unfold plainOperand.prefixed
  grind

@[grind ←] theorem plainOperand (level : Nat) {t : Token} (ht : EachLeaf G t) :
    Draws G (r.plainOperand level t) := by
  unfold Rules.plainOperand
  grind

@[grind ←] theorem operand (level : Nat) : Draws G (r.operand level) := by
  unfold Rules.operand
  grind

@[grind ←] theorem parseExpression (level : Nat) : Draws G (r.parseExpression level) := by
  unfold Rules.parseExpression
  grind

/-! ### Statements -/

@[grind ←] theorem statementsUntil (stops : List String) (n : Nat) {found : List Stmt}
    (hfound : EachLeaf G found) : Draws G (r.statementsUntil stops n found) := by
  induction n generalizing found with
  | zero => exact .fail
  | succ n ih =>
      rw [Rules.statementsUntil]
      grind

@[grind ←] theorem body (last : String) : Draws G (r.body last) := by
  unfold Rules.body
  grind

@[grind ←] theorem elseClauses (n : Nat) : Draws G (r.elseClauses n) := by
  induction n with
  | zero => exact .fail
  | succ n ih =>
      rw [Rules.elseClauses]
      refine .bind (.of_consumes (.accept _)) fun _ _ => ?_
      split
      · refine .bind h.parenthesised fun condition _ => .bind h.statement fun yes _ =>
          .bind ih fun no _ => .pure ?_
        grind
      · grind

@[grind ←] theorem colonClauses (n : Nat) : Draws G (r.colonClauses n) := by
  induction n with
  | zero => exact .fail
  | succ n ih =>
      rw [Rules.colonClauses]
      refine .bind (.of_consumes (.accept _)) fun _ _ => ?_
      split
      · refine .bind h.parenthesised fun condition _ => .bind (.symbol _) fun _ _ => ?_
        grind
      · grind

@[grind ←] theorem ifStatement : Draws G r.ifStatement := by
  unfold Rules.ifStatement
  refine .bind .take fun _ _ => .bind h.parenthesised fun condition _ => ?_
  grind

@[grind ←] theorem caseBody (n : Nat) {statements : List Stmt}
    (hstatements : EachLeaf G statements) : Draws G (r.caseBody n statements) := by
  induction n generalizing statements with
  | zero => exact .fail
  | succ n ih =>
      rw [Rules.caseBody]
      grind

@[grind ←] theorem switchCases (n : Nat) {found : List Stmt} (hfound : EachLeaf G found) :
    Draws G (r.switchCases n found) := by
  induction n generalizing found with
  | zero => exact .fail
  | succ n ih =>
      rw [Rules.switchCases]
      refine .bind .peek fun t _ => ?_
      split
      · refine .bind .take fun _ _ => .bind h.expression fun label _ =>
          .bind (.of_consumes consumes_caseSeparator) fun _ _ =>
          .bind (h.caseBody _ eachLeaf_nil) fun statements _ => ih ?_
        grind
      · grind
      · grind

@[grind ←] theorem switchStatement : Draws G r.switchStatement := by
  unfold Rules.switchStatement
  refine .bind .take fun _ _ => .bind h.parenthesised fun subject _ =>
    .bind (.of_consumes (.accept _)) fun _ _ => ?_
  split
  · refine .bind (.of_consumes consumes_leadingTerminator) fun _ _ => ?_
    grind
  · refine .bind (.symbol _) fun _ _ =>
      .bind (.of_consumes consumes_leadingTerminator) fun _ _ => ?_
    grind

@[grind ←] theorem foreachStatement : Draws G r.foreachStatement := by
  unfold Rules.foreachStatement
  refine .bind .take fun _ _ => .bind (.symbol _) fun _ _ => .bind h.expression fun subject _ =>
    .bind (.keyword _) fun _ _ => .bind h.expression fun first _ => ?_
  extract_lets behind
  have hbehind : ∀ targets, EachLeaf G targets → Draws G (behind targets) := by
    intro targets htargets
    dsimp only [behind]
    grind
  clear_value behind
  grind

@[grind ←] theorem header (last : String) : Draws G (r.header last) := by
  unfold Rules.header
  grind

@[grind ←] theorem forStatement : Draws G r.forStatement := by
  unfold Rules.forStatement
  refine .bind .take fun _ _ => .bind (.symbol _) fun _ _ => .bind (h.header _) fun initial _ => ?_
  grind

@[grind ←] theorem whileStatement : Draws G r.whileStatement := by
  unfold Rules.whileStatement
  grind

@[grind ←] theorem doStatement : Draws G r.doStatement := by
  unfold Rules.doStatement
  refine .bind .take fun _ _ => .bind h.statement fun statement _ => ?_
  grind

@[grind ←] theorem handlers (n : Nat) {found : List Stmt} (hfound : EachLeaf G found) :
    Draws G (r.handlers n found) := by
  induction n generalizing found with
  | zero => exact .fail
  | succ n ih =>
      rw [Rules.handlers]
      refine .bind (.of_consumes (.accept _)) fun _ _ => ?_
      split
      · refine .bind (.symbol _) fun _ _ => .bind (.of_consumes (consumes_hint r)) fun _ _ => ?_
        extract_lets behind
        have hbehind : ∀ bound, Draws G (behind bound) := by
          intro bound
          dsimp only [behind]
          grind
        clear_value behind
        grind
      · refine .bind (.of_consumes (.accept _)) fun _ _ => ?_
        split
        · exact .bind h.block fun statements _ => .pure (by grind)
        · grind

@[grind ←] theorem tryStatement : Draws G r.tryStatement := by
  unfold Rules.tryStatement
  grind

@[grind ←] theorem scopeStatement : Draws G r.scopeStatement := by
  unfold Rules.scopeStatement
  refine .bind .take fun _ _ => .bind .peek fun t _ => ?_
  extract_lets behind
  have hbehind : ∀ name, Draws G (behind name) := by
    intro name
    dsimp only [behind]
    grind
  clear_value behind
  split
  · grind
  · exact .bind_any .path fun found => by grind

omit h in
@[grind .] theorem importOthers (r : Rules) : Draws G r.importOthers := by
  unfold Rules.importOthers
  refine .bind .take fun _ _ => .bind (.of_consumes consumes_importItem) fun _ _ =>
    .bind (.of_consumes (.accept _)) fun _ _ => ?_
  grind

omit h in
@[grind .] theorem importStatement (r : Rules) : Draws G r.importStatement := by
  unfold Rules.importStatement
  refine .bind .take fun _ _ => .bind .peek fun t _ => ?_
  split
  · exact importOthers r
  · refine .bind (.of_consumes consumes_importItem) fun first _ =>
      .bind (.of_consumes (.isNext _)) fun isGroup _ => ?_
    grind

@[grind ←] theorem listStatement : Draws G r.listStatement := by
  unfold Rules.listStatement
  grind

@[grind ←] theorem optionalStatement : Draws G r.optionalStatement := by
  unfold Rules.optionalStatement
  grind

@[grind ←] theorem staticItem : Draws G r.staticItem := by
  unfold Rules.staticItem
  grind

@[grind ←] theorem constantItem : Draws G r.constantItem := by
  unfold Rules.constantItem
  grind

@[grind ←] theorem declareStatement : Draws G r.declareStatement := by
  unfold Rules.declareStatement
  grind

@[grind ←] theorem functionStatement : Draws G r.functionStatement := by
  unfold Rules.functionStatement
  refine .bind .take fun _ _ => .bind (.of_consumes (.accept _)) fun _ _ =>
    .bind .word fun name _ => ?_
  grind

@[grind ←] theorem expressionStatement : Draws G r.expressionStatement := by
  unfold Rules.expressionStatement
  grind

@[grind ←] theorem functionValueStatement (start : Nat) :
    Draws G (r.functionValueStatement start) := by
  unfold Rules.functionValueStatement
  grind

@[grind ←] theorem labelOrExpression : Draws G r.labelOrExpression := by
  unfold Rules.labelOrExpression
  grind

@[grind ←] theorem classLike (kind : DeclarationKind) : Draws G (r.classLike kind) := by
  unfold Rules.classLike
  refine .bind .take fun _ _ => .bind .word fun name hname => ?_
  extract_lets behind
  have hbehind : ∀ u, Draws G (behind u) := by
    intro u
    refine .bind h.memberBlock fun members hmembers => ?_
    grind
  clear_value behind
  grind

@[grind ←] theorem modifiedClass : Draws G r.modifiedClass := by
  unfold Rules.modifiedClass
  grind

@[grind ←] theorem keywordStatement (t : Token) (word : String) :
    Draws G (r.keywordStatement t word) := by
  unfold Rules.keywordStatement keywordStatement.modified
  split
  all_goals grind

@[grind ←] theorem attributedStatement : Draws G r.attributedStatement := by
  unfold Rules.attributedStatement
  grind

@[grind ←] theorem parseStatement : Draws G r.parseStatement := by
  unfold Rules.parseStatement
  grind

/-! ### Members -/

omit h in
@[grind .] theorem traitUse (r : Rules) : Draws G r.traitUse := by
  unfold Rules.traitUse
  refine .bind .take fun _ _ => .bind_any (.separatedUntil .path _ _ _) fun _ => ?_
  grind

@[grind ←] theorem constantMember : Draws G r.constantMember := by
  unfold Rules.constantMember
  grind

@[grind ←] theorem enumCase : Draws G r.enumCase := by
  unfold Rules.enumCase
  grind

@[grind ←] theorem method (modifiers : List String) : Draws G (r.method modifiers) := by
  unfold Rules.method
  refine .bind .take fun _ _ => .bind (.of_consumes (.accept _)) fun _ _ =>
    .bind .word fun name _ => ?_
  grind

@[grind ←] theorem property : Draws G r.property := by
  unfold Rules.property
  refine .bind .peek fun t _ => ?_
  extract_lets behind
  have hbehind : ∀ hinted, Draws G (behind hinted) := by
    intro hinted
    dsimp only [behind]
    grind
  clear_value behind
  grind

@[grind ←] theorem parseMember : Draws G r.parseMember := by
  unfold Rules.parseMember
  grind

end Draw

end Rules

/-! ### All levels of the grammar -/

section Levels

open MockLens.Php.Parser (Draws)

variable {G : Leaf → Prop}

theorem consume_ruleAt (level limit : Nat) : Rules.Consume ⟨limit, ruleAt level⟩ :=
  (declare_ruleAt (G := fun _ => True) level limit).consume

/-- **At every level, the rules pass on leaves of the tokens ahead.** -/
theorem draw_ruleAt (level limit : Nat) : Rules.Draw G ⟨limit, ruleAt level⟩ := by
  induction level generalizing limit with
  | zero => exact ⟨consume_ruleAt 0 limit, .fail, fun _ => .fail, .fail⟩
  | succ level ih =>
      have hrules : Rules.Draw G ⟨level, ruleAt level⟩ := ih level
      exact ⟨consume_ruleAt _ limit, hrules.parseStatement, hrules.parseExpression,
        hrules.parseMember⟩

theorem eachLeaf_statementsOf {rule : Parser Stmt} (hrule : Draws G rule) (n : Nat)
    {found : List Stmt} (hfound : EachLeaf G found) {s : TokenStream} (hs : EachLeaf G s) :
    EachLeaf G (statementsOf rule n found s) := by
  induction n generalizing found s with
  | zero => exact eachLeaf_reverse.2 hfound
  | succ n ih =>
      rw [statementsOf]
      split
      · rename_i t s' hlook
        have hstep := hrule s' (TokenStream.eachLeaf_look hs hlook)
        cases h : rule s' with
        | done statement rest =>
            rw [h, eachLeaf_done] at hstep
            exact ih (eachLeaf_cons.2 ⟨hstep.1, hfound⟩) (TokenStream.eachLeaf_onwards hstep.2)
        | failed rest =>
            rw [h, eachLeaf_failed] at hstep
            exact ih hfound (TokenStream.eachLeaf_onwards hstep)
      · exact eachLeaf_reverse.2 hfound

end Levels

/-! ### Files -/

/-- A leaf is what one of several tokens becomes. -/
def Leaf.IsFrom (tokens : List Token) (leaf : Leaf) : Prop := ∃ t ∈ tokens, t.leaf? = some leaf

/-- **Every leaf of a parsed file is what one of its tokens becomes.** -/
theorem eachLeaf_parseFile (content : List Char) :
    EachLeaf (Leaf.IsFrom (tokenize content)) (parseFile content) := by
  have hahead : EachLeaf (Leaf.IsFrom (tokenize content)) (⟨0, tokenize content⟩ : TokenStream) :=
    fun t ht leaf hleaf => ⟨t, ht, hleaf⟩
  have hrules : Rules.Draw (Leaf.IsFrom (tokenize content)) ⟨0, ruleAt _⟩ :=
    draw_ruleAt (4 * (tokenize content).length + 8) 0
  exact eachLeaf_statementsOf hrules.statement _ eachLeaf_nil hahead

end MockLens.Php
