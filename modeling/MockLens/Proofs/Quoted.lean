/-
**Paths between quotes.**

A class is named in a literal by its path: names joined by single backslashes, with or without a
backslash in front.  Between single quotes a path is read as it is written.  Between double quotes
every backslash begins an escape, and a single one gives the backslash back: that of the letter `x`
with no hexadecimal digit behind it.  All others are shorter than what they are written with, so a
path that has one of them is read as something else.

Main definitions:

* `IsPath` — names joined by single backslashes;
* `Quoted.literal` — a text between quotes;
* `Quoted.KeepsBackslashes` — all backslashes of a path survive double quotes.

Main results:

* `codeLexeme_literal` — a path between quotes is one token;
* `Quoted.value_literal_single` — between single quotes its value is the path;
* `Quoted.value_literal_double_iff` — **between double quotes its value is the path exactly when
  all its backslashes survive.**
-/
import MockLens.Php.Lexer
import MockLens.Php.Quoted
import MockLens.Proofs.Utf8

set_option autoImplicit false

namespace MockLens.Php

/-! ### Paths -/

/-- Characters of names, and backslashes with a name behind them. -/
inductive IsPath : List Char → Prop
  | nil : IsPath []
  | part {c : Char} {cs : List Char} : isNamePart c = true → IsPath cs → IsPath (c :: cs)
  | segment {c : Char} {cs : List Char} :
      isNameStart c = true → IsPath cs → IsPath ('\\' :: c :: cs)

theorem isNamePart_backslash : isNamePart '\\' = false := by decide

theorem isPath_cons_iff {c d : Char} {cs : List Char} :
    IsPath (c :: d :: cs) ↔
      isNamePart c = true ∧ IsPath (d :: cs) ∨ c = '\\' ∧ isNameStart d = true ∧ IsPath cs := by
  constructor
  · intro h
    cases h with
    | part hc h => exact .inl ⟨hc, h⟩
    | segment hd h => exact .inr ⟨rfl, hd, h⟩
  · rintro (⟨hc, h⟩ | ⟨rfl, hd, h⟩)
    · exact .part hc h
    · exact .segment hd h

instance IsPath.decide : (cs : List Char) → Decidable (IsPath cs)
  | [] => isTrue .nil
  | [c] => decidable_of_iff (isNamePart c = true)
      ⟨fun hc => .part hc .nil, fun h => by cases h with | part hc _ => exact hc⟩
  | c :: d :: cs =>
    haveI := IsPath.decide (d :: cs)
    haveI := IsPath.decide cs
    decidable_of_iff _ isPath_cons_iff.symm

/-- What is neither part of a name nor a backslash is not in a path. -/
theorem IsPath.notMem {c : Char} (hpart : isNamePart c = false) (hslash : c ≠ '\\')
    {cs : List Char} (h : IsPath cs) : c ∉ cs := by
  have hne : ∀ {d}, isNamePart d = true → c ≠ d := by
    rintro d hd rfl
    rw [hd] at hpart
    cases hpart
  induction h with
  | nil => simp
  | part hd _ ih => simp [hne hd, ih]
  | segment hd _ ih => simp [hslash, hne (d := _) (by rw [isNamePart, hd]; rfl), ih]

theorem isNamePart_of_isNameStart {c : Char} (h : isNameStart c = true) : isNamePart c = true := by
  rw [isNamePart, h]
  rfl

theorem IsPath.of_cons {c : Char} {cs : List Char} (h : IsPath (c :: cs)) : IsPath cs := by
  cases h with
  | part _ h => exact h
  | segment hd h => exact .part (isNamePart_of_isNameStart hd) h

theorem IsPath.drop (n : Nat) {cs : List Char} (h : IsPath cs) : IsPath (cs.drop n) := by
  induction n generalizing cs with
  | zero => exact h
  | succ n ih =>
      cases cs with
      | nil => exact .nil
      | cons c cs => exact ih h.of_cons

theorem ne_backslash_of_isNamePart {c : Char} (h : isNamePart c = true) : c ≠ '\\' := by
  rintro rfl
  rw [isNamePart_backslash] at h
  cases h

namespace Quoted

/-- A text between quotes. -/
def literal (quote : Char) (contents : String) : String :=
  String.ofList (quote :: (contents.toList ++ [quote]))

/-! ### One token -/

section Token

variable {path : List Char} (h : IsPath path) (rest : List Char)

include h

/-- The quote behind a path is the first one that closes. -/
theorem countQuoted?_path {quote : Char} (hpart : isNamePart quote = false) (hslash : quote ≠ '\\')
    (n : Nat) : countQuoted? quote n (path ++ quote :: rest) = some (n + path.length + 1) := by
  induction h generalizing n with
  | nil =>
      rw [List.nil_append, countQuoted?] <;> simp [hslash]
  | @part c cs hc _ ih =>
      have hslash' : c ≠ '\\' := ne_backslash_of_isNamePart hc
      have hquote : c ≠ quote := by
        rintro rfl
        rw [hc] at hpart
        cases hpart
      rw [List.cons_append, countQuoted?]
      · rw [if_neg (by simpa using hquote), ih, List.length_cons]
        congr 1
        omega
      · simp [hslash']
      · simp [hslash']
  | segment _ _ ih =>
      rw [List.cons_append, List.cons_append, countQuoted?, ih]
      simp only [List.length_cons]
      congr 1
      omega

/-- There is no interpolation in a path. -/
theorem isPlain_path : isPlain (path ++ '"' :: rest) = true := by
  induction h with
  | nil => simp [isPlain]
  | @part c cs hc _ ih =>
      have hne : c ≠ '\\' ∧ c ≠ '$' ∧ c ≠ '\x7b' := by
        refine ⟨?_, ?_, ?_⟩ <;>
          · rintro rfl
            revert hc
            decide
      have hstarts : startsInterpolation isAsciiNameStart (c :: (cs ++ '"' :: rest)) = false := by
        rw [startsInterpolation] <;> simp [hne]
      rw [List.cons_append, isPlain]
      · simp [hstarts, ih]
      · simp [hne]
      · simp [hne]
  | segment _ _ ih => rwa [List.cons_append, List.cons_append, isPlain]

/-- **A path between quotes is one token**, up to the closing quote. -/
theorem codeLexeme_literal {quote : Char} (hquote : quote = '\'' ∨ quote = '"') (inString : Bool) :
    codeLexeme inString (quote :: (path ++ quote :: rest))
      = some ⟨some .quoted, path.length + 2⟩ := by
  have hpart : isNamePart quote = false := by rcases hquote with rfl | rfl <;> decide
  have hslash : quote ≠ '\\' := by rcases hquote with rfl | rfl <;> decide
  have hcount := countQuoted?_path h rest hpart hslash 1
  have hsize : 1 + path.length + 1 = path.length + 2 := by omega
  rcases hquote with rfl | rfl
  · simp [codeLexeme, quotedLexeme, hcount, hsize, isSpace, Text.isBlank, isNameStart,
      isAsciiNameStart]
  · simp [codeLexeme, doubleQuotedLexeme, isPlain_path h, quotedLexeme, hcount, hsize, isSpace,
      Text.isBlank, isNameStart, isAsciiNameStart]

end Token

/-! ### Single quotes -/

theorem text_map_char (cs : List Char) :
    StringUnit.text (cs.map .char) = some (String.ofList cs) := by
  rw [StringUnit.text, Utf8.decode_eq_some_iff, Utf8.encode, String.toList_ofList,
    List.flatMap_map]
  rfl

theorem unescapeSingle_path {path : List Char} (h : IsPath path) :
    unescapeSingle path = path.map .char := by
  induction h with
  | nil => rfl
  | @part c cs hc _ ih =>
      have hslash : c ≠ '\\' := ne_backslash_of_isNamePart hc
      rw [unescapeSingle, ih, List.map_cons] <;> simp [hslash]
  | @segment c cs hc _ ih =>
      have hc' : c ≠ '\\' ∧ c ≠ '\'' := by
        constructor <;>
          · rintro rfl
            revert hc
            decide
      rw [unescapeSingle, unescapeSingle, ih, List.map_cons, List.map_cons] <;> simp [hc']

theorem value_literal {quote : Char} (contents : String) (hquote : quote = '\'' ∨ quote = '"') :
    value (literal quote contents) = StringUnit.text
      (if quote = '\'' then unescapeSingle contents.toList
        else unescapeDouble 0 contents.toList) := by
  rcases hquote with rfl | rfl <;> simp [value, literal, units]

/-- **Between single quotes a path is read as it is written.** -/
theorem value_literal_single {path : String} (h : IsPath path.toList) :
    value (literal '\'' path) = some path := by
  rw [value_literal path (.inl rfl), if_pos rfl, unescapeSingle_path h, text_map_char,
    String.ofList_toList]

/-! ### Double quotes -/

/-- All backslashes of a path survive double quotes: behind each stands the letter `x` and then no
hexadecimal digit. -/
def KeepsBackslashes (path : List Char) : Prop :=
  ∀ c cs, '\\' :: c :: cs <:+ path → c = 'x' ∧ ∀ d ∈ cs.head?, Text.hexDigit? d = none

theorem keepsBackslashes_cons_iff {c : Char} {cs : List Char} (hc : c ≠ '\\') :
    KeepsBackslashes (c :: cs) ↔ KeepsBackslashes cs := by
  unfold KeepsBackslashes
  refine forall₂_congr fun d ds => ?_
  rw [List.suffix_cons_iff]
  simp [Ne.symm hc]

theorem keepsBackslashes_segment_iff {c : Char} {cs : List Char} (hc : c ≠ '\\') :
    KeepsBackslashes ('\\' :: c :: cs) ↔
      (c = 'x' ∧ ∀ d ∈ cs.head?, Text.hexDigit? d = none) ∧ KeepsBackslashes cs := by
  have hcons : KeepsBackslashes (c :: cs) ↔ KeepsBackslashes cs := keepsBackslashes_cons_iff hc
  rw [← hcons]
  unfold KeepsBackslashes
  constructor
  · exact fun h => ⟨h c cs List.suffix_rfl, fun d ds hd => h d ds (hd.trans (List.suffix_cons _ _))⟩
  · rintro ⟨hfirst, h⟩ d ds hd
    rw [List.suffix_cons_iff] at hd
    rcases hd with hd | hd
    · obtain ⟨rfl, rfl⟩ : d = c ∧ ds = cs := by simpa using hd
      exact hfirst
    · exact h d ds hd

theorem le_digitRun (digit? : Char → Option Nat) (base left : Nat) :
    ∀ (value count : Nat) (cs : List Char),
      count ≤ (digitRun digit? base left value count cs).2 := by
  induction left with
  | zero => exact fun _ _ _ => by simp [digitRun]
  | succ left ih =>
      intro value count cs
      cases cs with
      | nil => simp [digitRun]
      | cons c cs =>
          rw [digitRun]
          split
          · exact Nat.le_trans (Nat.le_succ count) (ih _ _ _)
          · exact Nat.le_refl count

theorem digitRun_eq_zero_iff (digit? : Char → Option Nat) (base left : Nat) (cs : List Char) :
    (digitRun digit? base (left + 1) 0 0 cs).2 = 0 ↔ ∀ d ∈ cs.head?, digit? d = none := by
  cases cs with
  | nil => simp [digitRun]
  | cons c cs =>
      rw [digitRun]
      split
      · rename_i d hd
        have hpos : 0 < (digitRun digit? base left (0 * base + d) (0 + 1) cs).2 :=
          le_digitRun digit? base left _ (0 + 1) cs
        exact iff_of_false (Nat.ne_of_gt hpos) (by simp [hd])
      · rename_i hd
        simp [hd]

theorem escape_x_kept {cs : List Char} (h : ∀ d ∈ cs.head?, Text.hexDigit? d = none) :
    escape 'x' cs = ([.char '\\', .char 'x'], 0) := by
  have hzero := (digitRun_eq_zero_iff Text.hexDigit? 16 1 cs).2 h
  rcases hrun : digitRun Text.hexDigit? 16 2 0 0 cs with ⟨value, count⟩
  rw [hrun] at hzero
  obtain rfl : count = 0 := hzero
  simp [escape, hrun]

theorem escape_x_taken {cs : List Char} (h : ¬ ∀ d ∈ cs.head?, Text.hexDigit? d = none) :
    ∃ b count, escape 'x' cs = ([.byte b], count) := by
  have hpos := mt (digitRun_eq_zero_iff Text.hexDigit? 16 1 cs).1 h
  rcases hrun : digitRun Text.hexDigit? 16 2 0 0 cs with ⟨value, count⟩
  rw [hrun] at hpos
  cases count with
  | zero => exact absurd rfl hpos
  | succ count => exact ⟨UInt8.ofNat value, count + 1, by simp [escape, hrun]⟩

theorem isDigit_eq_false_of_isNameStart {c : Char} (hc : isNameStart c = true) :
    c.isDigit = false := by
  by_contra hdigit
  rw [Bool.not_eq_false, Char.isDigit, Bool.and_eq_true, decide_eq_true_eq, decide_eq_true_eq]
    at hdigit
  have hrange : 48 ≤ c.toNat ∧ c.toNat ≤ 57 := hdigit
  have hcode : ∀ n < 58, 48 ≤ n → isNameStart (Char.ofNat n) = false := by decide
  have hno := hcode c.toNat (Nat.lt_succ_of_le hrange.2) hrange.1
  rw [Char.ofNat_toNat, hc] at hno
  cases hno

/-- An escape that does not give its backslash back takes no more bytes than what stands behind
the backslash. -/
theorem length_escape_le {c : Char} {cs : List Char} (hc : isNameStart c = true)
    (hlost : ¬ (c = 'x' ∧ ∀ d ∈ cs.head?, Text.hexDigit? d = none)) :
    ((escape c cs).1.flatMap StringUnit.bytes).length ≤ c.utf8Size := by
  by_cases hx : c = 'x'
  · subst hx
    obtain ⟨b, count, hescape⟩ := escape_x_taken fun h => hlost ⟨rfl, h⟩
    rw [hescape]
    exact Char.utf8Size_pos 'x'
  · have hdigit := isDigit_eq_false_of_isNameStart hc
    have hpos := c.utf8Size_pos
    unfold escape
    split
    case h_8 => exact absurd rfl hx
    case h_9 =>
      cases octalDigit? c with
      | some first => exact hpos
      | none => simp [hdigit, StringUnit.bytes, String.length_utf8EncodeChar]
    all_goals decide

theorem unescapeDouble_segment (c : Char) (cs : List Char) :
    unescapeDouble 0 ('\\' :: c :: cs)
      = (escape c cs).1 ++ unescapeDouble (escape c cs).2 cs := by
  rw [unescapeDouble]
  rfl

theorem unescapeDouble_cons {c : Char} (hc : c ≠ '\\') (cs : List Char) :
    unescapeDouble 0 (c :: cs) = .char c :: unescapeDouble 0 cs := by
  rw [unescapeDouble]
  simp [hc]

theorem unescapeDouble_eq_drop (skip : Nat) (cs : List Char) :
    unescapeDouble skip cs = unescapeDouble 0 (cs.drop skip) := by
  induction skip generalizing cs with
  | zero => rfl
  | succ skip ih =>
      cases cs with
      | nil => rfl
      | cons c cs => exact ih cs

/-- A path whose backslashes survive is read as it is written. -/
theorem unescapeDouble_of_keeps {path : List Char} (h : IsPath path) :
    KeepsBackslashes path → unescapeDouble 0 path = path.map .char := by
  induction h with
  | nil => exact fun _ => rfl
  | part hc _ ih =>
      intro hkeeps
      have hslash := ne_backslash_of_isNamePart hc
      rw [unescapeDouble_cons hslash, ih ((keepsBackslashes_cons_iff hslash).1 hkeeps),
        List.map_cons]
  | segment hc _ ih =>
      intro hkeeps
      have hslash := ne_backslash_of_isNamePart (isNamePart_of_isNameStart hc)
      obtain ⟨⟨rfl, hdigit⟩, hrest⟩ := (keepsBackslashes_segment_iff hslash).1 hkeeps
      rw [unescapeDouble_segment, escape_x_kept hdigit, ih hrest]
      rfl

/-- No path is read as more bytes than it is written with. -/
theorem length_unescapeDouble_le {path : List Char} (h : IsPath path) :
    ((unescapeDouble 0 path).flatMap StringUnit.bytes).length ≤ (Utf8.encode path).length := by
  -- an escape may take digits with it, so what is left of the path is no direct part of it and the
  -- induction is on the length
  match path, h with
  | [], _ => exact Nat.le_refl _
  | c :: cs, .part hc h =>
      have ih := length_unescapeDouble_le h
      rw [unescapeDouble_cons (ne_backslash_of_isNamePart hc), List.flatMap_cons,
        List.length_append, Utf8.length_encode_cons, StringUnit.bytes, String.length_utf8EncodeChar]
      omega
  | _ :: c :: cs, .segment hc h =>
      have ih := length_unescapeDouble_le (h.drop (escape c cs).2)
      have hdrop := Utf8.length_encode_drop_le (escape c cs).2 cs
      have hescape : ((escape c cs).1.flatMap StringUnit.bytes).length ≤ 1 + c.utf8Size := by
        by_cases hkept : c = 'x' ∧ ∀ d ∈ cs.head?, Text.hexDigit? d = none
        · obtain ⟨rfl, hdigit⟩ := hkept
          rw [escape_x_kept hdigit]
          decide
        · exact Nat.le_trans (length_escape_le hc hkept) (Nat.le_add_left _ _)
      have hslash : '\\'.utf8Size = 1 := by decide
      rw [unescapeDouble_segment, unescapeDouble_eq_drop, List.flatMap_append, List.length_append,
        Utf8.length_encode_cons, Utf8.length_encode_cons, hslash]
      omega
termination_by path.length
decreasing_by
  all_goals simp
  omega

/-- A path with a backslash that does not survive is read as fewer bytes than it is written
with. -/
theorem length_unescapeDouble_lt {path : List Char} (h : IsPath path) :
    ¬ KeepsBackslashes path →
      ((unescapeDouble 0 path).flatMap StringUnit.bytes).length < (Utf8.encode path).length := by
  induction h with
  | nil => exact fun hlost => absurd (by simp [KeepsBackslashes]) hlost
  | part hc _ ih =>
      intro hlost
      have hslash := ne_backslash_of_isNamePart hc
      have ih := ih (mt (keepsBackslashes_cons_iff hslash).2 hlost)
      rw [unescapeDouble_cons hslash, List.flatMap_cons, List.length_append,
        Utf8.length_encode_cons, StringUnit.bytes, String.length_utf8EncodeChar]
      omega
  | @segment c cs hc h ih =>
      intro hlost
      have hslash := ne_backslash_of_isNamePart (isNamePart_of_isNameStart hc)
      have hsize : '\\'.utf8Size = 1 := by decide
      rw [keepsBackslashes_segment_iff hslash] at hlost
      rw [unescapeDouble_segment, List.flatMap_append, List.length_append, Utf8.length_encode_cons,
        Utf8.length_encode_cons, hsize]
      by_cases hkept : c = 'x' ∧ ∀ d ∈ cs.head?, Text.hexDigit? d = none
      · have ih := ih fun hrest => hlost ⟨hkept, hrest⟩
        obtain ⟨rfl, hdigit⟩ := hkept
        have hunits : (([StringUnit.char '\\', .char 'x']).flatMap StringUnit.bytes).length
            = 1 + 'x'.utf8Size := by decide
        rw [escape_x_kept hdigit, hunits]
        dsimp only
        omega
      · have hescape := length_escape_le hc hkept
        have hrest := length_unescapeDouble_le (h.drop (escape c cs).2)
        have hdrop := Utf8.length_encode_drop_le (escape c cs).2 cs
        rw [unescapeDouble_eq_drop]
        omega

/-- **Between double quotes a path is read as it is written exactly when all its backslashes
survive.** -/
theorem value_literal_double_iff {path : String} (h : IsPath path.toList) :
    value (literal '"' path) = some path ↔ KeepsBackslashes path.toList := by
  rw [value_literal path (.inr rfl), if_neg (by decide)]
  constructor
  · intro hvalue
    by_contra hlost
    -- a value equal to the path would be made of as many bytes
    have hlt := length_unescapeDouble_lt h hlost
    rw [StringUnit.text, Utf8.decode_eq_some_iff] at hvalue
    rw [hvalue] at hlt
    exact Nat.lt_irrefl _ hlt
  · intro hkeeps
    rw [unescapeDouble_of_keeps h hkeeps, text_map_char, String.ofList_toList]

/-- A path is read back from between quotes unless double quotes take a backslash for an escape. -/
theorem value_literal_iff {path : String} (h : IsPath path.toList) {quote : Char}
    (hquote : quote = '\'' ∨ quote = '"') :
    value (literal quote path) = some path ↔
      quote = '\'' ∨ KeepsBackslashes path.toList := by
  rcases hquote with rfl | rfl
  · exact iff_of_true (value_literal_single h) (.inl rfl)
  · rw [value_literal_double_iff h]
    simp

end Quoted

end MockLens.Php
