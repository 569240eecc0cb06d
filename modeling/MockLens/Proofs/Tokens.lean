/-
**Tokens: where they stand in the text.**

The lexer cuts a text into tokens (`MockLens/Php/Lexer.lean`).  Here the tokens are found in the
text again: whatever the mode in which a token was read, and also if it was held back to the end of
an interpolation, the text of the token stands where its span starts.  This holds since the lexer
never loses its place: what lies ahead of it stands in the text at its offset, and a token is a
beginning of that.  A token that may serve as a name moreover has neither a backslash nor a line end
in it.

Main definitions:

* `StandsAt` — a piece stands in a text at a byte offset;
* `Token.Faithful` — a token has the text that stands at its span;
* `Lexer.Sound` — the lexer knows its place, and holds no tokens but faithful ones.

Main results:

* `isBare_of_codeLexeme` — a name has no backslash and no line end;
* `Lexer.Sound.step` — every step of the lexer keeps it sound;
* `faithful_of_mem_tokenize` — **the tokens of a text are faithful.**
-/
import MockLens.Php.Parser.Basic
import MockLens.Proofs.Text

set_option autoImplicit false

namespace MockLens.Php

open MockLens.Php.Parser (isWord)

/-! ### Names -/

theorem countWhile_eq (p : Char → Bool) (n : Nat) (cs : List Char) :
    countWhile p n cs = n + (cs.takeWhile p).length := by
  induction cs generalizing n with
  | nil => rfl
  | cons c cs ih =>
      by_cases hc : p c = true
      · rw [countWhile, if_pos hc, ih, List.takeWhile_cons_of_pos hc, List.length_cons]
        omega
      · rw [countWhile, if_neg hc, List.takeWhile_cons_of_neg hc, List.length_nil, Nat.add_zero]

theorem take_countWhile (p : Char → Bool) (cs : List Char) :
    cs.take (countWhile p 0 cs) = cs.takeWhile p := by
  rw [countWhile_eq, Nat.zero_add]
  exact (List.prefix_iff_eq_take.1 (List.takeWhile_prefix p)).symm

/-- Without a backslash between names there is one name. -/
theorem countNames_single {n m : Nat} {joined : Bool} {cs : List Char}
    (h : countNames n joined cs = (m, false)) :
    joined = false ∧ ∃ k, m = n + k ∧ ∀ c ∈ cs.take k, isNamePart c = true := by
  fun_induction countNames n joined cs generalizing m with
  | case1 n joined =>
      obtain ⟨rfl, rfl⟩ := Prod.mk.inj h
      exact ⟨rfl, 0, rfl, by simp⟩
  | case2 n joined c =>
      obtain ⟨rfl, rfl⟩ := Prod.mk.inj h
      by_cases hc : isNamePart c = true
      · exact ⟨rfl, 1, by rw [if_pos hc], by simpa using hc⟩
      · exact ⟨rfl, 0, by rw [if_neg hc, Nat.add_zero], by simp⟩
  | case3 n joined c d cs hc ih =>
      obtain ⟨hjoined, k, rfl, hnames⟩ := ih h
      refine ⟨hjoined, k + 1, by omega, ?_⟩
      rw [List.take_succ_cons, List.forall_mem_cons]
      exact ⟨hc, hnames⟩
  | case4 n joined c d cs _ _ ih =>
      -- behind a backslash the names are joined
      obtain ⟨hjoined, _⟩ := ih h
      cases hjoined
  | case5 n joined c d cs _ _ =>
      obtain ⟨rfl, rfl⟩ := Prod.mk.inj h
      exact ⟨rfl, 0, rfl, by simp⟩

/-- Neither a backslash nor a line end is in a piece of text. -/
def IsBare (cs : List Char) : Prop := '\\' ∉ cs ∧ '\n' ∉ cs

theorem isBare_of_names {cs : List Char} (h : ∀ c ∈ cs, isNamePart c = true) : IsBare cs := by
  refine ⟨fun hmem => ?_, fun hmem => ?_⟩
  · exact absurd (h _ hmem) (by decide)
  · exact absurd (h _ hmem) (by decide)

/-- The visibilities for writing have no backslash and no line end, in whatever case they are
written. -/
theorem isBare_of_setter {cs : List Char} {word : String} (hword : word ∈ setters)
    (h : Text.lower (String.ofList cs) = word) : IsBare cs := by
  have hchars : cs.map Char.toLower = word.toList := by
    rw [← h, Text.lower, String.toList_ofList, String.toList_ofList]
  have hkept : ∀ c : Char, c.toLower = c → c ∈ cs → c ∈ word.toList := by
    intro c hc hmem
    rw [← hchars]
    exact List.mem_map.2 ⟨c, hmem, hc⟩
  have hbare : ∀ word ∈ setters, '\\' ∉ word.toList ∧ '\n' ∉ word.toList := by decide
  obtain ⟨hslash, hline⟩ := hbare word hword
  exact ⟨fun hmem => hslash (hkept _ (by decide) hmem),
    fun hmem => hline (hkept _ (by decide) hmem)⟩

theorem isBare_of_nameLexeme {inString : Bool} {cs : List Char} {kind : TokenKind} {size : Nat}
    (h : nameLexeme inString cs = ⟨some kind, size⟩) (hword : isWord kind = true) :
    IsBare (cs.take size) := by
  unfold nameLexeme at h
  split at h
  · rename_i word hfind
    obtain ⟨-, rfl⟩ := Lexeme.mk.inj h
    exact isBare_of_setter (List.mem_of_find?_eq_some hfind) (by simpa using List.find?_some hfind)
  · dsimp only at h
    obtain ⟨hkind, rfl⟩ := Lexeme.mk.inj h
    refine isBare_of_names ?_
    cases inString with
    | true =>
        rw [if_pos rfl, take_countWhile]
        exact List.all_eq_true.1 List.all_takeWhile
    | false =>
        rw [if_neg Bool.false_ne_true] at hkind ⊢
        rcases hcount : countNames 0 false cs with ⟨m, joined⟩
        rw [hcount] at hkind
        cases joined with
        | true =>
            obtain rfl := Option.some.inj hkind
            cases hword
        | false =>
            obtain ⟨-, k, rfl, hnames⟩ := countNames_single hcount
            rw [Nat.zero_add]
            exact hnames

/-! ### Lexemes -/

/-- A lexeme is no word. -/
def Lexeme.IsNoWord (l : Lexeme) : Prop := ∀ kind, l.kind = some kind → isWord kind = false

theorem isNoWord_none (size : Nat) : Lexeme.IsNoWord ⟨none, size⟩ := by
  intro kind hkind
  cases hkind

theorem isNoWord_some {kind : TokenKind} (h : isWord kind = false) (size : Nat) :
    Lexeme.IsNoWord ⟨some kind, size⟩ := by
  intro kind' hkind
  obtain rfl := Option.some.inj hkind
  exact h

theorem blockComment_isNoWord (cs : List Char) : (blockComment cs).IsNoWord := by
  unfold blockComment
  split
  · exact isNoWord_none _
  · exact isNoWord_some rfl _

theorem quotedLexeme_isNoWord (quote : Char) (start : Nat) (cs : List Char) :
    (quotedLexeme quote start cs).IsNoWord := by
  unfold quotedLexeme
  split
  · exact isNoWord_some rfl _
  · exact isNoWord_some rfl _

theorem doubleQuotedLexeme_isNoWord (start : Nat) (cs : List Char) :
    (doubleQuotedLexeme start cs).IsNoWord := by
  unfold doubleQuotedLexeme
  split
  · exact quotedLexeme_isNoWord _ _ _
  · exact isNoWord_some rfl _

theorem zeroLexeme_isNoWord (cs : List Char) : (zeroLexeme cs).IsNoWord := by
  refine isNoWord_some ?_ _
  split
  · rfl
  · rfl

theorem numberLexeme_isNoWord (cs : List Char) : (numberLexeme cs).IsNoWord := by
  -- in a notation with a letter digits have to follow; either way it is a number
  have hbased : ∀ (c : Prop) [Decidable c] (n m : Nat),
      Lexeme.IsNoWord (if c then ⟨some .number, n⟩ else ⟨some .number, m⟩) := fun c _ n m =>
    iteInduction (fun _ => isNoWord_some rfl _) fun _ => isNoWord_some rfl _
  unfold numberLexeme
  dsimp only
  split
  · refine iteInduction (fun _ => hbased _ _ _) fun _ => ?_
    refine iteInduction (fun _ => hbased _ _ _) fun _ => ?_
    exact iteInduction (fun _ => hbased _ _ _) fun _ => zeroLexeme_isNoWord _
  · exact isNoWord_some rfl _

/-- A lexeme is no word, or it is read as a name. -/
def Lexeme.IsNameOrNoWord (inString : Bool) (cs : List Char) (l : Lexeme) : Prop :=
  l.IsNoWord ∨ nameLexeme inString cs = l

/-- In code, words are read as names and in no other way. -/
theorem codeLexeme_isNameOrNoWord {inString : Bool} {cs : List Char} {l : Lexeme}
    (h : codeLexeme inString cs = some l) : l.IsNameOrNoWord inString cs := by
  cases cs with
  | nil => cases h
  | cons c rest =>
      rw [← Option.some.inj h]
      -- blanks and comments
      refine iteInduction (fun _ => .inl (isNoWord_none _)) fun _ => ?_
      refine iteInduction (fun _ => .inl (isNoWord_none _)) fun _ => ?_
      refine iteInduction (fun _ => .inl (isNoWord_none _)) fun _ => ?_
      refine iteInduction (fun _ => .inl (blockComment_isNoWord _)) fun _ => ?_
      -- strings behind a letter, and names
      refine iteInduction (fun _ => .inl (quotedLexeme_isNoWord _ _ _)) fun _ => ?_
      refine iteInduction (fun _ => .inl (doubleQuotedLexeme_isNoWord _ _)) fun _ => ?_
      refine iteInduction (fun _ => ?_) fun _ => ?_
      · cases documentStart? (c :: rest) with
        | some opening => exact .inl (isNoWord_some rfl _)
        | none => exact iteInduction (fun _ => .inl (isNoWord_some rfl _)) fun _ => .inr rfl
      -- numbers, strings, variables, rooted names and closing tags
      refine iteInduction (fun _ => .inl (numberLexeme_isNoWord _)) fun _ => ?_
      refine iteInduction (fun _ => .inl (quotedLexeme_isNoWord _ _ _)) fun _ => ?_
      refine iteInduction (fun _ => .inl (doubleQuotedLexeme_isNoWord _ _)) fun _ => ?_
      refine iteInduction (fun _ => .inl (isNoWord_some rfl _)) fun _ => ?_
      refine iteInduction (fun _ => .inl (isNoWord_some rfl _)) fun _ => ?_
      refine iteInduction (fun _ => .inl (isNoWord_some rfl _)) fun _ => ?_
      -- everything else
      cases castSize? (c :: rest) with
      | some n => exact .inl (isNoWord_some rfl _)
      | none =>
          cases documentStart? (c :: rest) with
          | some opening => exact .inl (isNoWord_some rfl _)
          | none =>
              dsimp only
              split
              · exact .inl (isNoWord_some rfl _)
              · exact .inl (isNoWord_some rfl _)

theorem isBare_of_codeLexeme {inString : Bool} {cs : List Char} {kind : TokenKind} {size : Nat}
    (h : codeLexeme inString cs = some ⟨some kind, size⟩) (hword : isWord kind = true) :
    IsBare (cs.take size) := by
  rcases codeLexeme_isNameOrNoWord h with hnone | hname
  · rw [hnone kind rfl] at hword
    cases hword
  · exact isBare_of_nameLexeme hname hword

/-! ### Places -/

/-- A piece of text stands in a text at a byte offset. -/
def StandsAt (content : List Char) (offset : Nat) (piece : List Char) : Prop :=
  ∃ before after, content = before ++ piece ++ after ∧ offset = Text.byteLength before

/-- A token has the text that stands where its span starts, and that of a name is bare. -/
structure Token.Faithful (content : List Char) (t : Token) : Prop where
  stands : StandsAt content t.span.start t.text.toList
  bare : isWord t.kind = true → IsBare t.text.toList

namespace Lexer

/-- What lies ahead of the lexer stands in the text at its offset, and the tokens it holds back are
faithful. -/
structure Sound (content : List Char) (lx : Lexer) : Prop where
  place : ∃ before, content = before ++ lx.rest ∧ lx.offset = Text.byteLength before
  held : ∀ t ∈ lx.held, t.Faithful content

/-- A step found faithful tokens and led to a sound lexer. -/
structure Reading (content : List Char) (found : List Token) (next : Lexer) : Prop where
  found : ∀ t ∈ found, t.Faithful content
  next : next.Sound content

namespace Sound

variable {content : List Char} {lx : Lexer} (h : lx.Sound content)

include h

theorem token {kind : TokenKind} {size : Nat}
    (hbare : isWord kind = true → IsBare (lx.rest.take size)) :
    (lx.token kind size).Faithful content := by
  obtain ⟨before, hcontent, hoffset⟩ := h.place
  have htext : (lx.token kind size).text.toList = lx.rest.take size := String.toList_ofList
  refine ⟨⟨before, lx.rest.drop size, ?_, hoffset⟩, fun hword => ?_⟩
  · rw [htext, List.append_assoc, List.take_append_drop]
    exact hcontent
  · rw [htext]
    exact hbare hword

theorem advance (size : Nat) : (lx.advance size).Sound content := by
  obtain ⟨before, hcontent, hoffset⟩ := h.place
  refine ⟨⟨before ++ lx.rest.take size, ?_, ?_⟩, h.held⟩
  · rw [List.append_assoc, Lexer.advance, List.take_append_drop]
    exact hcontent
  · rw [Text.byteLength_append, Lexer.advance, hoffset]

theorem inMode (mode : Mode) : Sound content { lx with mode := mode } := ⟨h.place, h.held⟩

theorem interpolate (closing : Closing) : (lx.interpolate closing).Sound content :=
  ⟨h.place, h.held⟩

theorem settle (start stop : Nat) : (lx.settle start stop).Sound content := by
  unfold Lexer.settle
  split
  · split
    · exact ⟨h.place, h.held⟩
    · exact h
  · exact h

/-- A token that is no name is read, and the mode may change behind it. -/
theorem reading {kind : TokenKind} (hkind : isWord kind = false) (size : Nat) (mode : Mode) :
    Reading content [lx.token kind size] { lx.advance size with mode := mode } := by
  refine ⟨List.forall_mem_singleton.2 (h.token fun hword => ?_), (h.advance size).inMode mode⟩
  rw [hkind] at hword
  cases hword

/-- Something that yields no token is read. -/
theorem reading_nothing (size : Nat) : Reading content [] (lx.advance size) :=
  ⟨by simp, h.advance size⟩

section Steps

variable {found : List Token} {next : Lexer}

theorem stepHtml (hstep : lx.stepHtml = some (found, next)) : Reading content found next := by
  unfold Lexer.stepHtml at hstep
  split at hstep
  · cases hstep
  · dsimp only at hstep
    split at hstep
    · cases hstep
      exact h.reading rfl 5 .code
    · split at hstep
      · cases hstep
        exact h.reading rfl 3 .code
      · cases hstep
        exact h.reading rfl 2 .code
  · cases hstep
    exact h.reading rfl _ lx.mode

theorem stepCode (hstep : lx.stepCode = some (found, next)) : Reading content found next := by
  unfold Lexer.stepCode at hstep
  split at hstep
  · cases hstep
  · cases hstep
    exact h.reading_nothing _
  · rename_i kind size hlexeme
    cases hstep
    exact ⟨List.forall_mem_singleton.2 (h.token (isBare_of_codeLexeme hlexeme)),
      (h.advance size).inMode _⟩

theorem piece {closing : Closing} {p : DocumentPiece}
    (hstep : stepString.piece lx closing p = some (found, next)) : Reading content found next := by
  unfold stepString.piece at hstep
  split at hstep
  · cases hstep
    exact h.reading rfl _ .code
  · cases hstep
    exact ⟨by simp, h.interpolate closing⟩
  · cases hstep
    exact h.reading rfl _ lx.mode

theorem stepString {closing : Closing} (hstep : lx.stepString closing = some (found, next)) :
    Reading content found next := by
  unfold Lexer.stepString at hstep
  split at hstep
  · cases hstep
  · split at hstep
    · split at hstep
      · split at hstep
        · cases hstep
          exact h.reading rfl 1 .code
        · cases hstep
          exact ⟨by simp, h.interpolate _⟩
      · cases hstep
        exact h.reading rfl _ lx.mode
    · exact h.piece hstep
    · exact h.piece hstep

theorem stepHalting {missing : List String} (hstep : lx.stepHalting missing = some (found, next)) :
    Reading content found next := by
  unfold Lexer.stepHalting at hstep
  split at hstep
  · cases hstep
  · split at hstep
    · cases hstep
    · dsimp only at hstep
      split at hstep
      · cases hstep
        exact h.reading_nothing _
      · split at hstep
        · cases hstep
          exact h.reading rfl 1 _
        · split at hstep
          · cases hstep
            exact h.reading rfl 2 _
          · cases hstep
            refine ⟨fun t ht => ?_, h.advance 1⟩
            rw [List.eq_of_mem_replicate ht]
            exact h.token (by simp [isWord])

theorem read (hread : lx.read = some (found, next)) : Reading content found next := by
  unfold Lexer.read at hread
  split at hread
  · exact h.stepHtml hread
  · exact h.stepCode hread
  · exact h.stepString hread
  · exact h.stepHalting hread
  · split at hread
    · cases hread
    · cases hread
      exact h.reading rfl _ lx.mode

/-- **Every step of the lexer finds faithful tokens and keeps it sound.** -/
theorem step (hstep : lx.step = some (found, next)) : Reading content found next := by
  unfold Lexer.step at hstep
  split at hstep
  · cases hstep
  · rename_i read behind hread
    obtain ⟨hfound, hbehind⟩ := h.read hread
    dsimp only at hstep
    -- an interpolation may end here; that moves no token
    generalize hsettled : (if behind.pending.length == lx.pending.length
      then behind.settle lx.offset behind.offset else behind) = settled at hstep
    have hsound : settled.Sound content := by
      rw [← hsettled]
      split
      · exact hbehind.settle _ _
      · exact hbehind
    have hheld : ∀ t ∈ read.reverse ++ settled.held, t.Faithful content :=
      List.forall_mem_append.2 ⟨fun t ht => hfound t (List.mem_reverse.1 ht), hsound.held⟩
    split at hstep
    · cases hstep
      exact ⟨hfound, hsound⟩
    · split at hstep
      · cases hstep
        exact ⟨List.forall_mem_singleton.2 (h.token (by simp [isWord])), hsound.place, by simp⟩
      · split at hstep
        · cases hstep
          refine ⟨?_, hsound.place, by simp⟩
          split
          · simp
          · exact fun t ht => hheld t (List.mem_reverse.1 ht)
        · cases hstep
          exact ⟨by simp, hsound.place, hheld⟩

end Steps

/-- What a run of the lexer leaves is faithful, if what it had before is. -/
theorem run (fuel : Nat) {tokens : List Token} (htokens : ∀ t ∈ tokens, t.Faithful content) :
    ∀ t ∈ Lexer.run fuel tokens lx, t.Faithful content := by
  induction fuel generalizing lx tokens with
  | zero => exact fun t ht => htokens t (List.mem_reverse.1 ht)
  | succ fuel ih =>
      rw [Lexer.run]
      split
      · exact fun t ht => htokens t (List.mem_reverse.1 ht)
      · rename_i found next hstep
        obtain ⟨hfound, hnext⟩ := h.step hstep
        refine ih hnext (List.forall_mem_append.2 ⟨?_, htokens⟩)
        exact fun t ht => hfound t (List.mem_reverse.1 ht)

end Sound

end Lexer

/-- **The tokens of a text stand in it where their spans say**, and their names are bare. -/
theorem faithful_of_mem_tokenize {content : List Char} {t : Token} (h : t ∈ tokenize content) :
    t.Faithful content := by
  have hbeginning : Lexer.Sound content { rest := content } := ⟨⟨[], rfl, rfl⟩, by simp⟩
  exact hbeginning.run _ (by simp) t h

end MockLens.Php
