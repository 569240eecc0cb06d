/-
**Token order: the tokens of a text one behind the other.**

The lexer goes through a text once, from its beginning to its end, but the tokens of an
interpolation become visible only at the end of it (`MockLens/Php/Lexer.lean`), and what is held
back might come too late.  It does not: no token becomes visible while others are held, and those
come before any that is read behind them.  So the tokens are in the order in which they stand in the
text, and a token ends where the next one starts, or before.  The same token may occur several times
among the stray bytes behind the statement that ends the code.

Main definitions:

* `Token.IsUpTo` — a token ends before another one starts, unless they are the same;
* `Token.IsMeasured` — the span of a token has the bytes of its text;
* `Lexer.Reads` — what is read at once: one token, perhaps several times, from where the lexer is;
* `Lexer.InOrder` — the tokens read so far are in order and end before the lexer goes on.

Main results:

* `Lexer.InOrder.step` — every step of the lexer keeps the order;
* `pairwise_tokenize` — **the tokens of a text are in order;**
* `eq_of_mem_tokenize` — tokens that share a byte are the same.
-/
import MockLens.Proofs.Tokens
import Mathlib.Data.List.Pairwise

set_option autoImplicit false

namespace MockLens.Php

/-! ### Places of tokens -/

/-- A token ends where another one starts, or before, unless they are the same. -/
def Token.IsUpTo (t u : Token) : Prop := t = u ∨ t.span.stop ≤ u.span.start

/-- A token takes up as many bytes as its text has. -/
def Token.IsMeasured (t : Token) : Prop :=
  t.span.stop = t.span.start + Text.byteLength t.text.toList

namespace Lexer

theorem isMeasured_token (lx : Lexer) (kind : TokenKind) (size : Nat) :
    (lx.token kind size).IsMeasured := by
  rw [Token.IsMeasured, token, String.toList_ofList]

/-! ### Reading -/

/-- One token was read from where the lexer was, perhaps several times or not at all, and the lexer
went on to its end. -/
structure Reads (lx : Lexer) (found : List Token) (next : Lexer) : Prop where
  tokens : ∃ n kind size, found = List.replicate n (lx.token kind size) ∧
    next.offset = (lx.token kind size).span.stop
  held : next.held = lx.held

section Reading

variable {lx next : Lexer} {found : List Token}

theorem Reads.one (lx : Lexer) (kind : TokenKind) (size : Nat) (mode : Mode) :
    Reads lx [lx.token kind size] { lx.advance size with mode := mode } :=
  ⟨⟨1, kind, size, rfl, rfl⟩, rfl⟩

theorem Reads.nothing (lx : Lexer) (size : Nat) : Reads lx [] (lx.advance size) :=
  ⟨⟨0, .gap, size, rfl, rfl⟩, rfl⟩

theorem Reads.interpolate (lx : Lexer) (closing : Closing) : Reads lx [] (lx.interpolate closing) :=
  ⟨⟨0, .gap, 0, rfl, rfl⟩, rfl⟩

theorem reads_stepHtml (h : lx.stepHtml = some (found, next)) : Reads lx found next := by
  unfold stepHtml at h
  split at h
  · cases h
  · cases h
    exact .one lx _ _ .code
  · cases h
    exact .one lx .html _ lx.mode

theorem reads_stepCode (h : lx.stepCode = some (found, next)) : Reads lx found next := by
  unfold stepCode at h
  split at h
  · cases h
  · cases h
    exact .nothing lx _
  · cases h
    exact .one lx _ _ _

theorem reads_piece {closing : Closing} {p : DocumentPiece}
    (h : stepString.piece lx closing p = some (found, next)) : Reads lx found next := by
  unfold stepString.piece at h
  split at h
  · cases h
    exact .one lx .documentEnd _ .code
  · cases h
    exact .interpolate lx closing
  · cases h
    exact .one lx .textPart _ lx.mode

theorem reads_stepString {closing : Closing} (h : lx.stepString closing = some (found, next)) :
    Reads lx found next := by
  unfold stepString at h
  split at h
  · cases h
  · split at h
    · split at h
      · split at h
        · cases h
          exact .one lx _ 1 .code
        · cases h
          exact .interpolate lx _
      · cases h
        exact .one lx .textPart _ lx.mode
    · exact reads_piece h
    · exact reads_piece h

theorem reads_stepHalting {missing : List String}
    (h : lx.stepHalting missing = some (found, next)) : Reads lx found next := by
  unfold stepHalting at h
  split at h
  · cases h
  · split at h
    · cases h
    · dsimp only at h
      split at h
      · cases h
        exact .nothing lx _
      · split at h
        · cases h
          exact .one lx _ 1 _
        · split at h
          · cases h
            exact .one lx .closeTag 2 _
          · cases h
            exact ⟨⟨_, .stray, 1, rfl, rfl⟩, rfl⟩

theorem reads_read (h : lx.read = some (found, next)) : Reads lx found next := by
  unfold read at h
  split at h
  · exact reads_stepHtml h
  · exact reads_stepCode h
  · exact reads_stepString h
  · exact reads_stepHalting h
  · split at h
    · cases h
    · cases h
      exact .one lx .html _ lx.mode

end Reading

/-! ### The order -/

/-- Tokens, latest first, are in order, have the bytes of their texts and end at an offset or
before. -/
structure EndBy (offset : Nat) (tokens : List Token) : Prop where
  pairwise : tokens.Pairwise fun u t => t.IsUpTo u
  measured : ∀ t ∈ tokens, t.IsMeasured
  stop_le : ∀ t ∈ tokens, t.span.stop ≤ offset

theorem EndBy.sublist {offset offset' : Nat} {tokens more : List Token} (h : EndBy offset more)
    (hsublist : tokens.Sublist more) (hle : offset ≤ offset') : EndBy offset' tokens where
  pairwise := h.pairwise.sublist hsublist
  measured t ht := h.measured t (hsublist.subset ht)
  stop_le t ht := (h.stop_le t (hsublist.subset ht)).trans hle

/-- A token that starts where the lexer is comes behind all those that end there or before. -/
theorem EndBy.replicate_append {lx : Lexer} {tokens : List Token} (h : EndBy lx.offset tokens)
    (n : Nat) (kind : TokenKind) (size : Nat) :
    EndBy (lx.token kind size).span.stop (List.replicate n (lx.token kind size) ++ tokens) where
  pairwise := by
    refine List.pairwise_append.2 ⟨List.pairwise_replicate.2 (.inr (.inl rfl)), h.pairwise, ?_⟩
    intro u hu t ht
    rw [List.eq_of_mem_replicate hu]
    exact .inr (h.stop_le t ht)
  measured t ht := by
    rcases List.mem_append.1 ht with ht | ht
    · rw [List.eq_of_mem_replicate ht]
      exact isMeasured_token lx kind size
    · exact h.measured t ht
  stop_le t ht := by
    rcases List.mem_append.1 ht with ht | ht
    · rw [List.eq_of_mem_replicate ht]
    · exact (h.stop_le t ht).trans (Nat.le_add_right _ _)

/-- The tokens that are visible, latest first, and those held back behind them are in order and end
before the lexer goes on; outside an interpolation none are held back. -/
structure InOrder (tokens : List Token) (lx : Lexer) : Prop where
  endBy : EndBy lx.offset (lx.held ++ tokens)
  visible : lx.pending = [] → lx.held = []

section Steps

variable {lx next : Lexer} {tokens found : List Token}

theorem offset_settle (start stop : Nat) (lx : Lexer) :
    (lx.settle start stop).offset = lx.offset := by
  unfold settle
  repeat' split
  all_goals rfl

theorem held_settle (start stop : Nat) (lx : Lexer) : (lx.settle start stop).held = lx.held := by
  unfold settle
  repeat' split
  all_goals rfl

/-- What is read comes behind the tokens held back. -/
theorem InOrder.read (h : InOrder tokens lx) (hread : Reads lx found next) :
    EndBy next.offset (found.reverse ++ lx.held ++ tokens) ∧ lx.offset ≤ next.offset := by
  obtain ⟨⟨n, kind, size, rfl, hoffset⟩, -⟩ := hread
  rw [hoffset, List.reverse_replicate, List.append_assoc]
  exact ⟨h.endBy.replicate_append n kind size, Nat.le_add_right _ _⟩

/-- **Every step of the lexer keeps the tokens in order.** -/
theorem InOrder.step (h : InOrder tokens lx) (hstep : lx.step = some (found, next)) :
    InOrder (found.reverse ++ tokens) next := by
  unfold Lexer.step at hstep
  split at hstep
  · cases hstep
  · rename_i read behind hread
    have hreads := reads_read hread
    obtain ⟨hall, hle⟩ := h.read hreads
    dsimp only at hstep
    -- an interpolation may end here; the tokens held back stay so for now
    generalize hsettled : (if behind.pending.length == lx.pending.length
      then behind.settle lx.offset behind.offset else behind) = settled at hstep
    have hoffset : settled.offset = behind.offset := by
      rw [← hsettled]
      split
      · exact offset_settle _ _ _
      · rfl
    have hheld : settled.held = lx.held := by
      rw [← hsettled, ← hreads.held]
      split
      · exact held_settle _ _ _
      · rfl
    rw [← hoffset] at hall hle
    split at hstep
    · -- outside of interpolations
      rename_i houtside
      obtain ⟨hbefore, -⟩ := Bool.and_eq_true_iff.1 houtside
      cases hstep
      have hnone : lx.held = [] := h.visible (List.isEmpty_iff.1 hbefore)
      rw [hnone, List.append_nil] at hall
      rw [hnone] at hheld
      exact ⟨by rw [hheld]; exact hall, fun _ => hheld⟩
    · split at hstep
      · -- the tokens held back are given up, and there is a gap
        cases hstep
        have hgap : EndBy lx.offset ([lx.token .gap 0] ++ tokens) :=
          (h.endBy.sublist (List.sublist_append_right _ _) le_rfl).replicate_append 1 .gap 0
        exact ⟨hgap.sublist (.refl _) hle, fun _ => rfl⟩
      · split at hstep
        · -- the interpolation ends
          cases hstep
          refine ⟨?_, fun _ => rfl⟩
          split
          · exact hall.sublist (List.sublist_append_right _ _) le_rfl
          · rw [List.reverse_reverse, hheld]
            exact hall
        · rename_i hinside
          cases hstep
          refine ⟨?_, fun hpending => absurd (List.isEmpty_iff.2 hpending) hinside⟩
          dsimp only
          rw [hheld]
          exact hall

theorem InOrder.run (fuel : Nat) (h : InOrder tokens lx) :
    ∃ offset, EndBy offset (Lexer.run fuel tokens lx).reverse := by
  induction fuel generalizing lx tokens with
  | zero =>
      rw [Lexer.run, List.reverse_reverse]
      exact ⟨_, h.endBy.sublist (List.sublist_append_right _ _) le_rfl⟩
  | succ fuel ih =>
      rw [Lexer.run]
      split
      · rw [List.reverse_reverse]
        exact ⟨_, h.endBy.sublist (List.sublist_append_right _ _) le_rfl⟩
      · exact ih (h.step ‹_›)

end Steps

end Lexer

/-! ### Texts -/

section Texts

variable {content : List Char}

theorem endBy_tokenize (content : List Char) :
    ∃ offset, Lexer.EndBy offset (tokenize content).reverse := by
  have hbeginning : Lexer.InOrder [] { rest := content } :=
    ⟨⟨.nil, by simp, by simp⟩, fun _ => rfl⟩
  exact hbeginning.run _

/-- **The tokens of a text are in order.** -/
theorem pairwise_tokenize (content : List Char) : (tokenize content).Pairwise Token.IsUpTo := by
  obtain ⟨_, h⟩ := endBy_tokenize content
  exact List.pairwise_reverse.1 h.pairwise

theorem isMeasured_of_mem_tokenize {t : Token} (ht : t ∈ tokenize content) : t.IsMeasured := by
  obtain ⟨_, h⟩ := endBy_tokenize content
  exact h.measured t (List.mem_reverse.2 ht)

/-- Tokens of which each starts before the other one ends are the same. -/
theorem eq_of_mem_tokenize {t u : Token} (ht : t ∈ tokenize content) (hu : u ∈ tokenize content)
    (htu : t.span.start < u.span.stop) (hut : u.span.start < t.span.stop) : t = u := by
  have happart : (tokenize content).Pairwise fun t u => t.IsUpTo u ∨ u.IsUpTo t :=
    (pairwise_tokenize content).imp .inl
  have _ : Std.Symm fun t u : Token => t.IsUpTo u ∨ u.IsUpTo t := ⟨fun _ _ => Or.symm⟩
  rcases happart.forall_of_forall (fun _ _ => .inl (.inl rfl)) ht hu with (h | h) | (h | h)
  · exact h
  · omega
  · exact h.symm
  · omega

end Texts

end MockLens.Php
