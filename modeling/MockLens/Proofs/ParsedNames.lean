/-
**Parsed names: what a program declares has its names from the text.**

The parser builds a tree, and the names in it could be anything.  But class-likes and methods have
theirs from one place alone, the parser of a word (`Parser.word`), which gives the text and the span
of a token; and no parser adds tokens to those ahead (`MockLens/Proofs/UsedTokens.lean`).  So
whatever holds of the words among the tokens of a file holds of the names that its tree declares.
It is followed through the rules for statements: only those for namespaces, class-likes and members
build something that declares names, and all others just have to leave a part of the tokens.

Main definitions:

* `Stmt.Declares`, `Member.Declares` — every name a tree declares is as a predicate says;
* `Parser.Yields` — a parser yields values of a kind, if the words ahead are as a predicate says;
* `Identifier.IsPlacedIn` — a name stands in a text where its span starts, and is bare.

Main results:

* `Parser.Yields.bind_of`, `Parser.Yields.recovering` — the ways of putting parsers together;
* `Rules.Declare.parseStatement`, `declare_ruleAt` — the rules, and their levels;
* `isPlacedIn_of_mem_classLikesOf` — **the names that a parsed file declares stand in it where
  their spans start.**
-/
import MockLens.Php.Parser
import MockLens.Proofs.ClassLikes
import MockLens.Proofs.Tokens
import MockLens.Proofs.UsedTokens

set_option autoImplicit false

namespace MockLens.Php

open MockLens.Php.Parser (Consumes isWord)

/-! ### The names in a tree -/

section Definitions

variable (G : Identifier → Prop)

/-- The names a statement declares, in whatever namespace it stands, are as `G` says. -/
def Stmt.Declares (s : Stmt) : Prop :=
  ∀ scope, ∀ c ∈ classLikesWithinStmt scope s, ∀ name ∈ c.names, G name

/-- The name of a method is as `G` says. -/
def Member.Declares (m : Member) : Prop := ∀ name, m.methodName? = some name → G name

/-- The words among tokens, taken as names, are as `G` says. -/
def WordsOf (tokens : List Token) : Prop :=
  ∀ t ∈ tokens, isWord t.kind = true → G ⟨t.text, t.span⟩

/-- A parser leaves a part of the tokens ahead and yields what `P` accepts, if the words ahead are
as `G` says. -/
structure Parser.Yields {α : Type} (P : α → Prop) (p : Parser α) : Prop where
  consumes : Consumes p
  value : ∀ s, WordsOf G s.ahead → ∀ v rest, p s = .done v rest → P v

end Definitions

variable {G : Identifier → Prop}

theorem WordsOf.sublist {tokens more : List Token} (h : WordsOf G more)
    (hsublist : tokens.Sublist more) : WordsOf G tokens :=
  fun t ht => h t (hsublist.subset ht)

/-- A statement is a namespace or a class-like; no other declares names. -/
@[grind] def Stmt.mayDeclare : Stmt → Bool
  | .scope _ _ => true
  | .classLike _ _ _ => true
  | _ => false

@[grind ←] theorem Stmt.declares_of_not_mayDeclare {s : Stmt} (h : s.mayDeclare = false) :
    s.Declares G := by
  intro scope c hc
  cases s with
  | scope _ _ => cases h
  | classLike _ _ _ => cases h
  | _ => cases hc

theorem Stmt.declares_scope {name : Option String} {body : List Stmt}
    (h : ∀ s ∈ body, s.Declares G) : (Stmt.scope name body).Declares G := by
  intro scope c hc
  obtain ⟨s, hs, hc⟩ := mem_classLikesWithin.1 hc
  exact h s hs _ c hc

theorem Stmt.declares_classLike {kind : DeclarationKind} {name : Identifier} {members : List Member}
    (hname : G name) (hmembers : ∀ m ∈ members, m.Declares G) :
    (Stmt.classLike kind name members).Declares G := by
  intro scope c hc other hother
  obtain rfl := List.mem_singleton.1 hc
  rcases List.mem_cons.1 hother with rfl | hother
  · exact hname
  · obtain ⟨m, hm, hmethod⟩ := List.mem_filterMap.1 hother
    exact hmembers m hm other hmethod

@[grind .] theorem Member.declares_other : Member.other.Declares G := by
  intro name hname
  cases hname

@[grind .] theorem Member.declares_property (hinted : Option Hint) (variableNames : List String) :
    (Member.property hinted variableNames).Declares G := by
  intro name hname
  cases hname

theorem Member.declares_method {name : Identifier} (h : G name) (isStatic : Bool)
    (parameters : List Parameter) (body : List Stmt) :
    (Member.method name isStatic parameters body).Declares G := by
  intro other hother
  obtain rfl := Option.some.inj hother
  exact h

/-! ### Values of parsers -/

namespace Parser.Yields

variable {α β : Type} {P : α → Prop} {Q : β → Prop} {p : Parser α} {next : α → Parser β}

@[grind ←] theorem pure {value : α} (h : P value) : Yields G P (Pure.pure value : Parser α) := by
  refine ⟨.pure value, fun s _ v rest hstep => ?_⟩
  obtain ⟨rfl, -⟩ := Step.done.inj hstep
  exact h

@[grind .] theorem fail : Yields G P (Parser.fail : Parser α) :=
  ⟨.fail, fun _ _ _ _ hstep => by cases hstep⟩

/-- A parser behind another one relies on the value that one yields. -/
theorem bind_of (hp : Yields G P p) (hconsumes : ∀ v, Consumes (next v))
    (hnext : ∀ v, P v → Yields G Q (next v)) : Yields G Q (p >>= next) := by
  refine ⟨.bind hp.consumes hconsumes, fun s hs v behind hstep => ?_⟩
  have hconsumed := hp.consumes s
  cases hfirst : p s with
  | done value between =>
      rw [hfirst] at hconsumed
      rw [Parser.bind_done hfirst] at hstep
      exact (hnext value (hp.value s hs value between hfirst)).value between
        (hs.sublist hconsumed) v behind hstep
  | failed between =>
      rw [Parser.bind_failed hfirst] at hstep
      cases hstep

@[grind ←] theorem bind (hp : Consumes p) (hnext : ∀ v, Yields G Q (next v)) :
    Yields G Q (p >>= next) :=
  bind_of ⟨hp, fun _ _ _ _ _ => trivial⟩ (fun v => (hnext v).consumes)
    fun v (_ : True) => hnext v

/-- The token that is used up is one of those ahead. -/
theorem take : Yields G (fun t => isWord t.kind = true → G ⟨t.text, t.span⟩) Parser.take := by
  refine ⟨.take, fun s hs t behind hstep => ?_⟩
  rw [Parser.take] at hstep
  split at hstep
  · rename_i found s' hlook
    obtain ⟨rfl, -⟩ := Step.done.inj hstep
    exact hs _ (TokenStream.mem_of_look hlook)
  · cases hstep

/-- A word is the text and the span of a token. -/
theorem word : Yields G G Parser.word := by
  refine take.bind_of (fun t => ?_) fun t ht => ?_
  · grind
  · split
    · exact pure (ht ‹_›)
    · exact fail

/-- The values that are read one after the other are all of the kind. -/
theorem recovering (hp : Yields G P p) (stops : TokenKind → Bool) (n : Nat) {values : List α}
    (hvalues : ∀ v ∈ values, P v) :
    Yields G (fun found => ∀ v ∈ found, P v) (Parser.recovering stops p n values) := by
  refine ⟨hp.consumes.recovering stops n values, ?_⟩
  have hreverse : ∀ values : List α, (∀ v ∈ values, P v) → ∀ v ∈ values.reverse, P v :=
    fun values h v hv => h v (List.mem_reverse.1 hv)
  induction n generalizing values with
  | zero =>
      intro s _ found behind hstep
      obtain ⟨rfl, -⟩ := Step.done.inj hstep
      exact hreverse values hvalues
  | succ n ih =>
      intro s hs found behind hstep
      rw [Parser.recovering] at hstep
      dsimp only at hstep
      split at hstep
      · obtain ⟨rfl, -⟩ := Step.done.inj hstep
        exact hreverse values hvalues
      · cases hstep
      · rename_i t s' hlook
        have hs' : WordsOf G s'.ahead := hs.sublist (TokenStream.sublist_look hlook)
        split at hstep
        · obtain ⟨rfl, -⟩ := Step.done.inj hstep
          exact hreverse values hvalues
        · -- the next value, if there is one, joins the others
          have hconsumed := hp.consumes s'
          cases hnext : p s' with
          | done value between =>
              rw [hnext] at hstep hconsumed
              have hvalue : P value := hp.value s' hs' value between hnext
              exact ih (List.forall_mem_cons.2 ⟨hvalue, hvalues⟩) _
                ((hs'.sublist hconsumed).sublist (TokenStream.sublist_onwards _ _)) found behind
                hstep
          | failed between =>
              rw [hnext] at hstep hconsumed
              exact ih hvalues _ ((hs'.sublist hconsumed).sublist (TokenStream.sublist_onwards _ _))
                found behind hstep

end Parser.Yields

@[grind .] theorem yields_inert (parts : List Expr) (body : List Stmt) :
    Parser.Yields G (Stmt.Declares G) (pure (.inert parts body)) :=
  .pure (Stmt.declares_of_not_mayDeclare rfl)

/-! ### Parts of statements -/

namespace Rules

@[grind .] theorem consumes_caseSeparator : Consumes caseSeparator := by
  unfold caseSeparator
  grind

@[grind .] theorem consumes_leadingTerminator : Consumes leadingTerminator := by
  unfold leadingTerminator
  grind

@[grind .] theorem consumes_importItem : Consumes importItem := by
  unfold importItem
  grind

@[grind .] theorem consumes_groupItem : Consumes groupItem := by
  unfold groupItem
  grind

@[grind ←] theorem consumes_groupItems {α : Type} {item : Parser α} (hitem : Consumes item)
    (r : Rules) : Consumes (r.groupItems item) := by
  unfold groupItems
  grind

@[grind .] theorem consumes_isUnnamed : Consumes isUnnamed := by
  unfold isUnnamed
  grind

@[grind .] theorem yields_importOthers (r : Rules) :
    Parser.Yields G (Stmt.Declares G) r.importOthers := by
  unfold Rules.importOthers
  refine .bind .take fun _ => .bind consumes_importItem fun _ => .bind (.accept _) fun _ => ?_
  grind

@[grind .] theorem yields_importStatement (r : Rules) :
    Parser.Yields G (Stmt.Declares G) r.importStatement := by
  unfold Rules.importStatement
  refine .bind .take fun _ => .bind .peek fun t => ?_
  split
  · exact yields_importOthers r
  · refine .bind consumes_importItem fun first => .bind (.isNext _) fun isGroup => ?_
    split
    · grind
    · grind

namespace Consume

variable {r : Rules} (h : r.Consume)

include h

@[grind ←] theorem statementsUntil (stops : List String) (n : Nat) (found : List Stmt) :
    Consumes (r.statementsUntil stops n found) := by
  induction n generalizing found with
  | zero => exact .fail
  | succ n ih =>
      rw [Rules.statementsUntil]
      grind

@[grind ←] theorem body (last : String) : Consumes (r.body last) := by
  unfold Rules.body
  grind

@[grind ←] theorem elseClauses (n : Nat) : Consumes (r.elseClauses n) := by
  induction n with
  | zero => exact .fail
  | succ n ih =>
      rw [Rules.elseClauses]
      grind

@[grind ←] theorem colonClauses (n : Nat) : Consumes (r.colonClauses n) := by
  induction n with
  | zero => exact .fail
  | succ n ih =>
      rw [Rules.colonClauses]
      grind

@[grind ←] theorem caseBody (n : Nat) (found : List Stmt) : Consumes (r.caseBody n found) := by
  induction n generalizing found with
  | zero => exact .fail
  | succ n ih =>
      rw [Rules.caseBody]
      grind

@[grind ←] theorem switchCases (n : Nat) (found : List Stmt) :
    Consumes (r.switchCases n found) := by
  induction n generalizing found with
  | zero => exact .fail
  | succ n ih =>
      rw [Rules.switchCases]
      grind

@[grind ←] theorem header (last : String) : Consumes (r.header last) := by
  unfold Rules.header
  grind

@[grind ←] theorem handlers (n : Nat) (found : List Stmt) : Consumes (r.handlers n found) := by
  induction n generalizing found with
  | zero => exact .fail
  | succ n ih =>
      rw [Rules.handlers]
      refine .bind (.accept _) fun isCatch => ?_
      split
      · refine .bind (.symbol _) fun _ => .bind (consumes_hint r) fun _ => ?_
        extract_lets behind
        have hbehind : ∀ bound, Consumes (behind bound) := by
          intro bound
          dsimp only [behind]
          grind
        clear_value behind
        grind
      · grind

@[grind ←] theorem listStatement : Consumes r.listStatement := by
  unfold Rules.listStatement
  grind

@[grind ←] theorem optionalStatement : Consumes r.optionalStatement := by
  unfold Rules.optionalStatement
  grind

@[grind ←] theorem staticItem : Consumes r.staticItem := by
  unfold Rules.staticItem
  grind

/-! ### Statements that declare nothing -/

@[grind ←] theorem ifStatement : Parser.Yields G (Stmt.Declares G) r.ifStatement := by
  unfold Rules.ifStatement
  grind

@[grind ←] theorem switchStatement : Parser.Yields G (Stmt.Declares G) r.switchStatement := by
  unfold Rules.switchStatement
  refine .bind .take fun _ => .bind h.parenthesised fun subject => .bind (.accept _) fun _ => ?_
  split
  · refine .bind consumes_leadingTerminator fun _ => ?_
    grind
  · refine .bind (.symbol _) fun _ => .bind consumes_leadingTerminator fun _ => ?_
    grind

@[grind ←] theorem foreachStatement : Parser.Yields G (Stmt.Declares G) r.foreachStatement := by
  unfold Rules.foreachStatement
  refine .bind .take fun _ => .bind (.symbol _) fun _ => .bind h.expression fun subject =>
    .bind (.keyword _) fun _ => .bind h.expression fun first => ?_
  extract_lets behind
  have hbehind : ∀ targets, Parser.Yields G (Stmt.Declares G) (behind targets) := by
    intro targets
    dsimp only [behind]
    grind
  clear_value behind
  grind

@[grind ←] theorem forStatement : Parser.Yields G (Stmt.Declares G) r.forStatement := by
  unfold Rules.forStatement
  refine .bind .take fun _ => .bind (.symbol _) fun _ => .bind (h.header _) fun initial => ?_
  grind

@[grind ←] theorem whileStatement : Parser.Yields G (Stmt.Declares G) r.whileStatement := by
  unfold Rules.whileStatement
  grind

@[grind ←] theorem doStatement : Parser.Yields G (Stmt.Declares G) r.doStatement := by
  unfold Rules.doStatement
  grind

@[grind ←] theorem tryStatement : Parser.Yields G (Stmt.Declares G) r.tryStatement := by
  unfold Rules.tryStatement
  grind

@[grind ←] theorem declareStatement : Parser.Yields G (Stmt.Declares G) r.declareStatement := by
  unfold Rules.declareStatement
  grind

@[grind ←] theorem functionStatement : Parser.Yields G (Stmt.Declares G) r.functionStatement := by
  unfold Rules.functionStatement
  refine .bind .take fun _ => .bind (.accept _) fun _ => .bind .word fun name => ?_
  grind

@[grind ←] theorem expressionStatement :
    Parser.Yields G (Stmt.Declares G) r.expressionStatement := by
  unfold Rules.expressionStatement
  grind

@[grind ←] theorem functionValueStatement (start : Nat) :
    Parser.Yields G (Stmt.Declares G) (r.functionValueStatement start) := by
  unfold Rules.functionValueStatement
  grind

@[grind ←] theorem labelOrExpression : Parser.Yields G (Stmt.Declares G) r.labelOrExpression := by
  unfold Rules.labelOrExpression
  grind

end Consume

/-! ### Statements that declare something -/

/-- The rules one level further down leave a part of the tokens ahead, and the names they declare
are as `G` says. -/
structure Declare (G : Identifier → Prop) (r : Rules) : Prop where
  consume : r.Consume
  statement : Parser.Yields G (Stmt.Declares G) r.statement
  member : Parser.Yields G (Member.Declares G) r.member

namespace Declare

variable {r : Rules} (h : r.Declare G)

include h

theorem block : Parser.Yields G (fun body => ∀ s ∈ body, s.Declares G) r.block := by
  unfold Rules.block
  refine .bind (.symbol _) fun _ =>
    .bind_of (h.statement.recovering _ _ (by simp)) (by grind) fun body hbody => ?_
  exact .bind (.symbol _) fun _ => .pure hbody

@[grind ←] theorem scopeStatement : Parser.Yields G (Stmt.Declares G) r.scopeStatement := by
  unfold Rules.scopeStatement
  refine .bind .take fun _ => .bind .peek fun t => ?_
  extract_lets behind
  have hbehind : ∀ name, Parser.Yields G (Stmt.Declares G) (behind name) := by
    intro name
    refine .bind (.isNext _) fun braced => ?_
    split
    · refine h.block.bind_of (by grind) fun body hbody => ?_
      exact .pure (Stmt.declares_scope hbody)
    · refine .bind .terminator fun _ =>
        .bind_of (h.statement.recovering _ _ (by simp)) (by grind) fun body hbody => ?_
      exact .pure (Stmt.declares_scope hbody)
  clear_value behind
  grind

theorem memberBlock :
    Parser.Yields G (fun found => ∀ m ∈ found.1, m.Declares G) r.memberBlock := by
  unfold Rules.memberBlock
  refine .bind (.symbol _) fun _ =>
    .bind_of (h.member.recovering _ _ (by simp)) (by grind) fun members hmembers => ?_
  exact .bind (.symbol _) fun _ => .pure hmembers

@[grind ←] theorem classLike (kind : DeclarationKind) :
    Parser.Yields G (Stmt.Declares G) (r.classLike kind) := by
  unfold Rules.classLike
  have hconsume := h.consume
  refine .bind .take fun _ => .bind_of .word ?_ fun name hname => ?_
  · grind
  · extract_lets behind
    have hbehind : ∀ u, Parser.Yields G (Stmt.Declares G) (behind u) := by
      intro u
      refine h.memberBlock.bind_of (by grind) fun members hmembers => ?_
      exact .pure (Stmt.declares_classLike hname hmembers)
    clear_value behind
    grind

@[grind ←] theorem modifiedClass : Parser.Yields G (Stmt.Declares G) r.modifiedClass := by
  unfold Rules.modifiedClass
  grind

@[grind ←] theorem keywordStatement (t : Token) (word : String) :
    Parser.Yields G (Stmt.Declares G) (r.keywordStatement t word) := by
  have hconsume := h.consume
  unfold Rules.keywordStatement keywordStatement.modified
  grind

@[grind ←] theorem attributedStatement :
    Parser.Yields G (Stmt.Declares G) r.attributedStatement := by
  have hconsume := h.consume
  unfold Rules.attributedStatement
  grind

theorem parseStatement : Parser.Yields G (Stmt.Declares G) r.parseStatement := by
  have hconsume := h.consume
  unfold Rules.parseStatement
  have hblock : Parser.Yields G (fun _ => True) r.block := ⟨h.block.consumes, by simp⟩
  grind

/-! ### Members -/

omit h in
@[grind .] theorem yields_traitUse (r : Rules) :
    Parser.Yields G (Member.Declares G) r.traitUse := by
  unfold Rules.traitUse
  grind

@[grind ←] theorem constantMember : Parser.Yields G (Member.Declares G) r.constantMember := by
  have hconsume := h.consume
  unfold Rules.constantMember
  grind

@[grind ←] theorem enumCase : Parser.Yields G (Member.Declares G) r.enumCase := by
  have hconsume := h.consume
  unfold Rules.enumCase
  grind

@[grind ←] theorem property : Parser.Yields G (Member.Declares G) r.property := by
  have hconsume := h.consume
  unfold Rules.property
  refine .bind .peek fun t => ?_
  extract_lets behind
  have hbehind : ∀ hinted, Parser.Yields G (Member.Declares G) (behind hinted) := by
    intro hinted
    dsimp only [behind]
    grind
  clear_value behind
  grind

@[grind ←] theorem method (modifiers : List String) :
    Parser.Yields G (Member.Declares G) (r.method modifiers) := by
  have hconsume := h.consume
  unfold Rules.method
  refine .bind .take fun _ => .bind (.accept _) fun _ => .bind_of .word (by grind) ?_
  intro name hname
  have hmethod : ∀ isStatic parameters body,
      (Member.method name isStatic parameters body).Declares G := Member.declares_method hname
  grind

theorem parseMember : Parser.Yields G (Member.Declares G) r.parseMember := by
  have hconsume := h.consume
  unfold Rules.parseMember
  grind

end Declare

end Rules

/-! ### All levels of the grammar -/

/-- **At every level, the rules leave a part of the tokens and declare names as `G` says.** -/
theorem declare_ruleAt (level limit : Nat) : Rules.Declare G ⟨limit, ruleAt level⟩ := by
  induction level generalizing limit with
  | zero => exact ⟨⟨fun _ => .fail⟩, .fail, .fail⟩
  | succ level ih =>
      have hrules : Rules.Declare G ⟨level, ruleAt level⟩ := ih level
      refine ⟨⟨fun goal => ?_⟩, hrules.parseStatement, hrules.parseMember⟩
      cases goal with
      | statement => exact (hrules.parseStatement).consumes
      | expression strength => exact hrules.consume.parseExpression strength
      | member => exact (hrules.parseMember).consumes
      | parameter => exact hrules.consume.parseParameter

theorem declares_of_mem_statementsOf {rule : Parser Stmt}
    (hrule : Parser.Yields G (Stmt.Declares G) rule) (n : Nat) {found : List Stmt}
    (hfound : ∀ s ∈ found, s.Declares G) {stream : TokenStream} (hwords : WordsOf G stream.ahead) :
    ∀ s ∈ statementsOf rule n found stream, s.Declares G := by
  have hreverse : ∀ s ∈ found.reverse, s.Declares G := fun s hs => hfound s (List.mem_reverse.1 hs)
  induction n generalizing found stream with
  | zero => exact hreverse
  | succ n ih =>
      rw [statementsOf]
      split
      · rename_i t behind hlook
        have hbehind : WordsOf G behind.ahead := hwords.sublist (TokenStream.sublist_look hlook)
        have hconsumed := hrule.consumes behind
        cases hstep : rule behind with
        | done statement rest =>
            rw [hstep] at hconsumed
            have hfound' : ∀ s ∈ statement :: found, s.Declares G :=
              List.forall_mem_cons.2 ⟨hrule.value behind hbehind statement rest hstep, hfound⟩
            exact ih hfound'
              ((hbehind.sublist hconsumed).sublist (TokenStream.sublist_onwards _ _))
              fun s hs => hfound' s (List.mem_reverse.1 hs)
        | failed rest =>
            rw [hstep] at hconsumed
            exact ih hfound
              ((hbehind.sublist hconsumed).sublist (TokenStream.sublist_onwards _ _)) hreverse
      · exact hreverse

/-! ### Files -/

/-- A name stands in a text where its span starts, and it is bare. -/
structure Identifier.IsPlacedIn (content : List Char) (name : Identifier) : Prop where
  stands : StandsAt content name.span.start name.text.toList
  bare : IsBare name.text.toList

/-- **The names that a parsed file declares stand in it where their spans start.** -/
theorem isPlacedIn_of_mem_classLikesOf {content : List Char} {c : ClassLike}
    (hc : c ∈ classLikesOf (parseFile content)) : ∀ name ∈ c.names, name.IsPlacedIn content := by
  have hwords : WordsOf (Identifier.IsPlacedIn content) (tokenize content) := by
    intro t ht hword
    have hfaithful := faithful_of_mem_tokenize ht
    exact ⟨hfaithful.stands, hfaithful.bare hword⟩
  obtain ⟨s, hs, hc⟩ := mem_classLikesWithin.1 hc
  have hrules : Rules.Declare (Identifier.IsPlacedIn content) ⟨0, ruleAt _⟩ :=
    declare_ruleAt (4 * (tokenize content).length + 8) 0
  exact declares_of_mem_statementsOf hrules.statement _ (by simp) hwords s hs _ c hc

end MockLens.Php
