/-
**The classes of a type hint.**

The classes of a hint are found in its printed text (`MockLens/Php/Hint.lean`): the text is cut at
bars and ampersands, and question marks, parentheses and blanks around the pieces are dropped.  The
tree of the hint is never walked.  This module shows that nothing is lost on the way through the
text: what is found there is what a walk through the tree would find, word by word.

A bar or ampersand that is printed between two hints keeps their names apart, and a mark that is
printed in front of a hint or behind it is dropped from the piece at that end, however deep it is
nested.  So the names in the text of a hint are those in the texts of its parts, one part after the
other, and the induction on the hint comes down to the words, each of which is a piece of its own.

Main definitions:

* `Php.Hint.words`, `Php.Hint.classNames` — the words of a hint, and those that may be classes;
* `Php.IsBareWord` — a text without the characters that print the structure of a hint;
* `Php.namesIn` — the names in the characters of a text.

Main results:

* `Php.namesIn_text` — the names in the text of a hint are its words, as far as they may be classes;
* `Analysis.State.classReference_eq_none_iff` — the words that refer to nothing;
* `Analysis.hint_classes` — **the classes of a hint**, for every hint and at every place.
-/
import MockLens.Analysis.State
import MockLens.Proofs.Text

set_option autoImplicit false

namespace MockLens

namespace Php

/-! ### Words -/

/-- The words of a hint, from left to right. -/
def Hint.words : Hint → List String
  | word text => [text]
  | nullable hint => hint.words
  | union left right => left.words ++ right.words
  | intersection left right => left.words ++ right.words
  | group hint => hint.words

/-- A word that may be the name of a class: it is not the name of a built-in type, up to ASCII case.
The empty text is no word. -/
def MayBeClass (word : String) : Prop :=
  word ≠ "" ∧ ∀ type ∈ builtinTypes, Text.sameFold type word = false

instance : DecidablePred MayBeClass := fun _ => inferInstanceAs (Decidable (_ ∧ _))

/-- The words of a hint that may be classes, from left to right; `self`, `static` and `parent` are
among them. -/
def Hint.classNames (h : Hint) : List String := h.words.filter fun word => MayBeClass word

theorem Hint.classNames_union (left right : Hint) :
    (union left right).classNames = left.classNames ++ right.classNames :=
  List.filter_append _ _

theorem Hint.classNames_intersection (left right : Hint) :
    (intersection left right).classNames = left.classNames ++ right.classNames :=
  List.filter_append _ _

/-- A text without any of the characters that print the structure of a hint. -/
def IsBareWord (word : String) : Prop := ∀ c ∈ word.toList, c ∉ ['|', '&', '?', '(', ')', ' ']

instance : DecidablePred IsBareWord := fun word => List.decidableBAll _ word.toList

/-! ### Names in the text of a hint -/

/-- A bar or ampersand, which divides the text of a hint. -/
def isHintBar (c : Char) : Bool := c == '|' || c == '&'

/-- The name in a piece of the text of a hint, unless it is that of a built-in type. -/
def nameInPiece (piece : List Char) : Option String :=
  let name := Text.trimBoth isHintMark (String.ofList piece)
  if name == "" || builtinTypes.contains (Text.lower name) then none else some name

/-- The names in the text of a hint. -/
def namesIn (cs : List Char) : List String :=
  (Text.splitCharsBy isHintBar cs).filterMap nameInPiece

theorem hintClassNames_eq (text : String) : hintClassNames text = namesIn text.toList := rfl

theorem isHintBar_of_mark {c : Char} (hc : isHintMark c = true) : isHintBar c = false := by
  simp only [isHintMark, Bool.or_eq_true, beq_iff_eq] at hc
  rcases hc with ((rfl | rfl) | rfl) | rfl <;> rfl

theorem IsBareWord.not_bar {word : String} (h : IsBareWord word) :
    ∀ c ∈ word.toList, isHintBar c = false := by
  intro c hc
  have hnot := h c hc
  simp only [List.mem_cons, not_or] at hnot
  simp [isHintBar, hnot]

theorem IsBareWord.not_mark {word : String} (h : IsBareWord word) :
    ∀ c ∈ word.toList, isHintMark c = false := by
  intro c hc
  have hnot := h c hc
  simp only [List.mem_cons, not_or] at hnot
  simp [isHintMark, hnot]

/-- A bar keeps the names on its sides apart. -/
theorem namesIn_append_bar {c : Char} (hc : isHintBar c = true) (as bs : List Char) :
    namesIn (as ++ c :: bs) = namesIn as ++ namesIn bs := by
  rw [namesIn, Text.splitCharsBy_append_cons hc, List.filterMap_append]
  rfl

/-- A mark in front of a text belongs to no name. -/
theorem namesIn_cons_mark {c : Char} (hc : isHintMark c = true) (cs : List Char) :
    namesIn (c :: cs) = namesIn cs := by
  obtain ⟨seg, segs, hcs, hcons⟩ := Text.splitCharsBy_cons (isHintBar_of_mark hc) cs
  have hpiece : nameInPiece (c :: seg) = nameInPiece seg := by
    rw [nameInPiece, nameInPiece, Text.trimBoth_cons hc]
  rw [namesIn, namesIn, hcs, hcons, List.filterMap_cons, List.filterMap_cons, hpiece]

/-- A mark behind a text belongs to no name. -/
theorem namesIn_concat_mark {c : Char} (hc : isHintMark c = true) (cs : List Char) :
    namesIn (cs ++ [c]) = namesIn cs := by
  obtain ⟨segs, seg, hcs, hconcat⟩ := Text.splitCharsBy_concat (isHintBar_of_mark hc) cs
  have hpiece : nameInPiece (seg ++ [c]) = nameInPiece seg := by
    rw [nameInPiece, nameInPiece, Text.trimBoth_concat hc]
  rw [namesIn, namesIn, hcs, hconcat, List.filterMap_append, List.filterMap_append,
    List.filterMap_cons, List.filterMap_cons, hpiece]

theorem lower_builtinTypes : ∀ type ∈ builtinTypes, Text.lower type = type := by decide

theorem mayBeClass_iff {word : String} :
    MayBeClass word ↔ (word == "" || builtinTypes.contains (Text.lower word)) = false := by
  rw [MayBeClass, Bool.or_eq_false_iff, beq_eq_false_iff_ne]
  refine and_congr_right fun _ => ?_
  rw [← Bool.not_eq_true, List.contains_iff_mem]
  constructor
  · intro h hmem
    have hdiffers := h _ hmem
    rw [Text.sameFold, lower_builtinTypes _ hmem, beq_self_eq_true] at hdiffers
    cases hdiffers
  · intro h type htype
    rw [Text.sameFold, lower_builtinTypes type htype, beq_eq_false_iff_ne]
    rintro rfl
    exact h htype

/-- A word is a piece of its own. -/
theorem namesIn_word {word : String} (hbare : IsBareWord word) :
    namesIn word.toList = (Hint.word word).classNames := by
  have hpiece : nameInPiece word.toList = if MayBeClass word then some word else none := by
    rw [nameInPiece, String.ofList_toList, Text.trimBoth_of_forall hbare.not_mark]
    by_cases hclass : MayBeClass word
    · rw [if_pos hclass, mayBeClass_iff.1 hclass]
      rfl
    · rw [if_neg hclass, Bool.of_not_eq_false (mt mayBeClass_iff.2 hclass)]
      rfl
  rw [namesIn, Text.splitCharsBy_of_forall hbare.not_bar, Hint.classNames, Hint.words,
    List.filterMap_cons, hpiece]
  by_cases hclass : MayBeClass word <;> simp [hclass]

/-- **The names in the text of a hint are its words**, as far as they may be classes. -/
theorem namesIn_text (h : Hint) (hbare : ∀ word ∈ h.words, IsBareWord word) :
    namesIn h.text.toList = h.classNames := by
  induction h with
  | word text => exact namesIn_word (hbare text List.mem_cons_self)
  | nullable hint ih =>
      have htext : (Hint.nullable hint).text.toList = '?' :: hint.text.toList := by
        simp [Hint.text]
      rw [htext, namesIn_cons_mark rfl]
      exact ih hbare
  | union left right ihl ihr =>
      have htext : (Hint.union left right).text.toList
          = left.text.toList ++ '|' :: right.text.toList := by
        simp [Hint.text]
      obtain ⟨hleft, hright⟩ := List.forall_mem_append.1 hbare
      rw [htext, namesIn_append_bar rfl, ihl hleft, ihr hright, Hint.classNames_union]
  | intersection left right ihl ihr =>
      have htext : (Hint.intersection left right).text.toList
          = left.text.toList ++ '&' :: right.text.toList := by
        simp [Hint.text]
      obtain ⟨hleft, hright⟩ := List.forall_mem_append.1 hbare
      rw [htext, namesIn_append_bar rfl, ihl hleft, ihr hright, Hint.classNames_intersection]
  | group hint ih =>
      have htext : (Hint.group hint).text.toList = '(' :: (hint.text.toList ++ [')']) := by
        simp [Hint.text]
      rw [htext, namesIn_cons_mark rfl, namesIn_concat_mark rfl]
      exact ih hbare

end Php

namespace Analysis

/-! ### What the words refer to -/

/-- **The words that refer to nothing**: the parent class is not known, and outside of classes that
have a name there is nothing that `self` and `static` could stand for. -/
theorem State.classReference_eq_none_iff (st : State) (imports : Imports) (word : String) :
    st.classReference imports word = none ↔
      Text.sameFold word "parent" = true ∨
        (Text.sameFold word "self" = true ∨ Text.sameFold word "static" = true) ∧
          st.currentClass = none := by
  have hparent : Text.sameFold word "parent" = true →
      ¬ (Text.sameFold word "self" = true ∨ Text.sameFold word "static" = true) := by
    simp only [Text.sameFold_iff]
    intro h
    rw [h]
    decide
  simp only [classReference, Bool.or_eq_true]
  by_cases hown : Text.sameFold word "self" = true ∨ Text.sameFold word "static" = true
  · have hnot : ¬ Text.sameFold word "parent" = true := fun h => hparent h hown
    simp [hown, hnot]
  · rw [if_neg hown]
    by_cases h : Text.sameFold word "parent" = true <;> simp [h, hown]

/-- **The classes of a hint**, for every hint whose words are bare.  The names found in its text are
the words of its tree that may be classes, in order; and at any place its candidate types are what
these refer to, in order, without those that refer to nothing. -/
theorem hint_classes (hint : Php.Hint) (hbare : ∀ word ∈ hint.words, Php.IsBareWord word) :
    Php.hintClassNames hint.text = hint.classNames ∧
      ∀ (imports : Imports) (st : State),
        st.hintTypes imports hint = hint.classNames.filterMap (st.classReference imports) ∧
          ∀ word, st.classReference imports word = none ↔
            Text.sameFold word "parent" = true ∨
              (Text.sameFold word "self" = true ∨ Text.sameFold word "static" = true) ∧
                st.currentClass = none := by
  have hnames : Php.hintClassNames hint.text = hint.classNames := by
    rw [Php.hintClassNames_eq, Php.namesIn_text hint hbare]
  refine ⟨hnames, fun imports st => ⟨?_, st.classReference_eq_none_iff imports⟩⟩
  rw [State.hintTypes, hnames]

/-- The hint `(A&Self)|?(\C\D|INT)|parent`, in and outside of a class. -/
theorem hint_classes_nested :
    let hint : Php.Hint := .union (.group (.intersection (.word "A") (.word "Self")))
      (.union (.nullable (.group (.union (.word "\\C\\D") (.word "INT")))) (.word "parent"))
    (∀ word ∈ hint.words, Php.IsBareWord word) ∧
      hint.text = "(A&Self)|?(\\C\\D|INT)|parent" ∧
      Php.hintClassNames hint.text = ["A", "Self", "\\C\\D", "parent"] ∧
      State.hintTypes {} {} hint = ["\\A", "\\C\\D"] ∧
      State.hintTypes { classes := [some "\\X"] } {} hint = ["\\A", "\\X", "\\C\\D"] := by
  intro hint
  have hbare : ∀ word ∈ hint.words, Php.IsBareWord word := by decide
  obtain ⟨hnames, htypes⟩ := hint_classes hint hbare
  exact ⟨hbare, by decide, hnames.trans (by decide), (htypes {} {}).1.trans (by decide),
    (htypes {} { classes := [some "\\X"] }).1.trans (by decide)⟩

end Analysis

end MockLens
