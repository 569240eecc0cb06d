/-
**The text before a cursor, scanned by its bytes.**

Completion reads the text before a cursor backwards, as a list of characters
(`MockLens/Completion/Cursor.lean`).  Here the same shapes are looked for among the bytes of that
text: from offset to offset, a byte or two at a time, and names are cut out of the text at the
offsets found.  Every access to a byte and every cut is one that can go wrong
(`MockLens/Proofs/Bytes.lean`).  None does: an offset is only ever reached by passing bytes of ASCII
from the end of the text, so it stays behind a character, and the scan finds what the reading of
characters finds.

Main definitions:

* `Bytes.callee`, `Bytes.openLiteral` — `Class::method` up to an offset, and `Class::method('typed`
  up to the end of the text;
* `Bytes.receiverEnd` — the offset at which the receiver of an arrow ends;
* `Bytes.variableBefore` — the variable that ends at an offset.

Main results:

* `Bytes.openLiteral_cursor`, `Bytes.receiverEnd_cursor`, `Bytes.variableBefore_cursor` — **the
  scans go through, and find what is read from the characters**;
* `Bytes.variableBefore_eq_ok_iff` — the scan for a variable goes through from every offset of the
  text, inside a character as well.
-/
import MockLens.Proofs.Bytes
import MockLens.Proofs.Cursor

set_option autoImplicit false

namespace MockLens

namespace Bytes

open Text (byteLength)
open Utf8 (encode)

/-! ### Kinds of bytes -/

/-- The bytes of the letters and digits of ASCII. -/
def isAlphanumByte (b : UInt8) : Bool :=
  (0x30 ≤ b && b ≤ 0x39) || (0x41 ≤ b && b ≤ 0x5A) || (0x61 ≤ b && b ≤ 0x7A)

/-- The bytes of a word. -/
def isWordByte (b : UInt8) : Bool := isAlphanumByte b || b == 0x5F

/-- The bytes of a name with backslashes. -/
def isPathByte (b : UInt8) : Bool := isWordByte b || b == 0x5C

/-- The bytes of blanks. -/
def isBlankByte (b : UInt8) : Bool :=
  b == 0x20 || b == 0x09 || b == 0x0A || b == 0x0D || b == 0x0C

/-- The bytes of quotes. -/
def isQuoteByte (b : UInt8) : Bool := b == 0x27 || b == 0x22

theorem tests_isAlphanum : Tests isAlphanumByte Char.isAlphanum where
  onAscii := by decide
  byte_beyond b hb := by
    simp only [isAlphanumByte, UInt8.le_iff_toNat_le, UInt8.reduceToNat, Bool.or_eq_false_iff,
      Bool.and_eq_false_imp, decide_eq_true_eq, decide_eq_false_iff_not, not_le]
    omega
  char_beyond c hc := by
    have hbeyond (d : Char) (hd : d.toNat < 128) : ¬ c ≤ d := fun hle =>
      absurd (UInt32.le_iff_toNat_le.1 hle) (Nat.not_le.2 (Nat.lt_of_lt_of_le hd hc))
    rw [← Bool.not_eq_true, Cursor.isAlphanum_iff]
    rintro (⟨-, hle⟩ | ⟨-, hle⟩ | ⟨-, hle⟩)
    · exact hbeyond 'z' (by decide) hle
    · exact hbeyond 'Z' (by decide) hle
    · exact hbeyond '9' (by decide) hle

theorem tests_isWord : Tests isWordByte Cursor.isWord :=
  tests_isAlphanum.or (tests_beq (d := '_') (by decide))

theorem tests_isPathPart : Tests isPathByte Cursor.isPathPart :=
  tests_isWord.or (tests_beq (d := '\\') (by decide))

theorem tests_isBlank : Tests isBlankByte Text.isBlank :=
  ((((tests_beq (d := ' ') (by decide)).or (tests_beq (d := '\t') (by decide))).or
    (tests_beq (d := '\n') (by decide))).or (tests_beq (d := '\r') (by decide))).or
    (tests_beq (d := '\x0c') (by decide))

theorem tests_isOpening : Tests isQuoteByte Cursor.isOpening :=
  (tests_beq (d := '\'') (by decide)).or (tests_beq (d := '"') (by decide))

/-! ### The scans -/

/-- Scans back over `Class::method` from an offset behind the method. -/
def callee (bytes : List UInt8) (stop : Nat) : Except Fault (Option (String × String)) := do
  let methodStart ← runStart isWordByte bytes stop
  if methodStart = stop ∨ methodStart < 2 then pure none
  else
    let classEnd ← back methodStart 2
    let colons ← window bytes classEnd methodStart
    if colons = encode [':', ':'] then
      let classStart ← runStart isPathByte bytes classEnd
      if classStart = classEnd then pure none
      else
        let className ← slice bytes classStart classEnd
        let method ← slice bytes methodStart stop
        pure (some (className, method))
    else pure none

/-- Scans back over `Class::method(` from an offset behind it. -/
def opened (bytes : List UInt8) (stop : Nat) : Except Fault (Option (String × String)) := do
  let parenEnd ← runStart isBlankByte bytes stop
  if parenEnd = 0 then pure none
  else
    let paren ← back parenEnd 1
    let b ← byteAt bytes paren
    if b == 0x28 then
      let methodEnd ← runStart isBlankByte bytes paren
      callee bytes methodEnd
    else pure none

/-- Scans back over `Class::method('typed` from the end of the text. -/
def openLiteral (bytes : List UInt8) : Except Fault (Option Cursor.OpenLiteral) := do
  let typedStart ← runStart isPathByte bytes bytes.length
  if typedStart = 0 then pure none
  else
    let quote ← back typedStart 1
    let b ← byteAt bytes quote
    if isQuoteByte b then
      match ← opened bytes quote with
      | some (className, method) =>
        let typed ← slice bytes typedStart bytes.length
        pure (some ⟨className, method, typedStart, typed⟩)
      | none => pure none
    else pure none

/-- The offset in front of a question mark that ends at `stop`, or else `stop`. -/
def beforeMark (bytes : List UInt8) (stop : Nat) : Except Fault Nat := do
  if stop = 0 then pure stop
  else
    let mark ← back stop 1
    let b ← byteAt bytes mark
    if b == 0x3F then pure mark else pure stop

/-- Scans back over `-> typed` from the end of the text, to the offset at which the receiver
ends. -/
def receiverEnd (bytes : List UInt8) : Except Fault (Option Nat) := do
  let typedStart ← runStart isWordByte bytes bytes.length
  let arrowEnd ← runStart isBlankByte bytes typedStart
  if arrowEnd < 2 then pure none
  else
    let arrowStart ← back arrowEnd 2
    let arrow ← window bytes arrowStart arrowEnd
    if arrow = encode ['-', '>'] then
      let stop ← beforeMark bytes arrowStart
      let receiver ← runStart isBlankByte bytes stop
      pure (some receiver)
    else pure none

/-- The variable, with its dollar sign, that ends at an offset. -/
def variableBefore (bytes : List UInt8) (stop : Nat) : Except Fault (Option String) := do
  let start ← runStart isWordByte bytes stop
  if start = stop ∨ start = 0 then pure none
  else
    let dollar ← back start 1
    let b ← byteAt bytes dollar
    if b == 0x24 then
      let name ← slice bytes dollar stop
      pure (some name)
    else pure none

/-! ### What they find -/

section Scans

variable {cursor before : List Char}

theorem length_cursor (cursor : List Char) :
    (encode cursor.reverse).length = byteLength cursor := by
  rw [Utf8.length_encode, Text.byteLength_reverse]

theorem byteLength_dropWhile_eq_iff (p : Char → Bool) (cs : List Char) :
    byteLength (cs.dropWhile p) = byteLength cs ↔ cs.takeWhile p = [] := by
  have hsplit := congrArg byteLength (List.takeWhile_append_dropWhile (p := p) (l := cs))
  rw [Text.byteLength_append] at hsplit
  rw [← Text.byteLength_eq_zero_iff]
  omega

theorem slice_takeWhile (p : Char → Bool) (h : before <:+ cursor) :
    slice (encode cursor.reverse) (byteLength (before.dropWhile p)) (byteLength before)
      = .ok (Cursor.forwards (before.takeWhile p)) := by
  have hsplit := List.takeWhile_append_dropWhile (p := p) (l := before)
  have hslice := slice_cursor (before.takeWhile p) (hsplit.symm ▸ h)
  rwa [hsplit] at hslice

/-- In front of a character of ASCII is the offset one byte earlier. -/
theorem byteLength_cons_sub_one {test : UInt8 → Bool} {p : Char → Bool} (ht : Tests test p)
    {c : Char} (hc : p c = true) (cs : List Char) :
    byteLength (c :: cs) - 1 = byteLength cs := by
  rw [Text.byteLength_cons, ht.utf8Size_eq hc, Nat.add_sub_cancel_left]

theorem two_le_byteLength (c d : Char) (cs : List Char) : 2 ≤ byteLength (c :: d :: cs) := by
  have hc := c.utf8Size_pos
  have hd := d.utf8Size_pos
  rw [Text.byteLength_cons, Text.byteLength_cons]
  omega

theorem callee_cursor (h : before <:+ cursor) :
    ∃ found, callee (encode cursor.reverse) (byteLength before) = .ok found ∧
      ∀ start typed, Cursor.staticCall? start typed before
        = found.map fun call => ⟨call.1, call.2, start, typed⟩ := by
  have hrest := (List.dropWhile_suffix Cursor.isWord).trans h
  rw [callee, runStart_cursor tests_isWord h, ok_bind]
  unfold Cursor.staticCall?
  by_cases hguard : byteLength (before.dropWhile Cursor.isWord) = byteLength before ∨
      byteLength (before.dropWhile Cursor.isWord) < 2
  · rw [if_pos hguard]
    refine ⟨none, rfl, fun start typed => ?_⟩
    split
    · rename_i more hdrop
      have hlong : 2 ≤ byteLength (before.dropWhile Cursor.isWord) := by
        rw [hdrop]
        exact two_le_byteLength ..
      have hempty := (byteLength_dropWhile_eq_iff ..).1 (hguard.resolve_right (by omega))
      simp [hempty]
    · rfl
  · obtain ⟨hmethod, hlong⟩ := not_or.1 hguard
    rw [byteLength_dropWhile_eq_iff] at hmethod
    obtain ⟨colons, hwindow, hcolons⟩ :=
      window_cursor (k := 2) hrest [':', ':'] rfl (Nat.le_of_not_lt hlong)
    rw [if_neg hguard, back_of_le (Nat.le_of_not_lt hlong), ok_bind, hwindow, ok_bind]
    by_cases hread : [':', ':'] <+: before.dropWhile Cursor.isWord
    · obtain ⟨more, hmore⟩ := hread
      have hclass : byteLength (before.dropWhile Cursor.isWord) - 2 = byteLength more := by
        rw [← hmore, Text.byteLength_append]
        exact Nat.add_sub_cancel_left ..
      have hcls : more <:+ cursor := (hmore ▸ List.suffix_append ..).trans hrest
      rw [if_pos (hcolons.2 ⟨more, hmore⟩), hclass, runStart_cursor tests_isPathPart hcls, ok_bind,
        slice_takeWhile _ hcls, ok_bind, slice_takeWhile _ h, ok_bind, ← hmore]
      by_cases hempty : more.takeWhile Cursor.isPathPart = []
      · rw [if_pos ((byteLength_dropWhile_eq_iff ..).2 hempty)]
        exact ⟨none, rfl, fun start typed => by simp [hempty]⟩
      · rw [if_neg fun hlength => hempty ((byteLength_dropWhile_eq_iff ..).1 hlength)]
        exact ⟨_, rfl, fun start typed => by simp [hmethod, hempty]⟩
    · rw [if_neg fun hfound => hread (hcolons.1 hfound)]
      refine ⟨none, rfl, fun start typed => ?_⟩
      split
      · rename_i more hdrop
        exact absurd ⟨more, hdrop.symm⟩ hread
      · rfl

theorem opened_cursor (h : before <:+ cursor) :
    ∃ found, opened (encode cursor.reverse) (byteLength before) = .ok found ∧
      ∀ start typed, (match before.dropWhile Text.isBlank with
          | '(' :: call => Cursor.staticCall? start typed (call.dropWhile Text.isBlank)
          | _ => none)
        = found.map fun call => ⟨call.1, call.2, start, typed⟩ := by
  have hinside := (List.dropWhile_suffix Text.isBlank).trans h
  rw [opened, runStart_cursor tests_isBlank h, ok_bind]
  cases hdrop : before.dropWhile Text.isBlank with
  | nil => exact ⟨none, rfl, fun start typed => rfl⟩
  | cons c outside =>
      rw [hdrop] at hinside
      have hpos := byteLength_cons_pos c outside
      have hparen : Tests (· == 0x28) (· == '(') := tests_beq (d := '(') (by decide)
      rw [if_neg hpos.ne', back_of_le hpos, ok_bind, byteAt_cursor hinside, ok_bind,
        hparen.lastByte_eq]
      cases hc : c == '(' with
      | false =>
          rw [if_neg (by simp)]
          refine ⟨none, rfl, fun start typed => ?_⟩
          split
          · rename_i h
            exact absurd (List.cons.inj h).1 (by simpa using hc)
          · rfl
      | true =>
          obtain rfl : c = '(' := by simpa using hc
          have houtside := (List.suffix_cons '(' outside).trans hinside
          rw [if_pos rfl, byteLength_cons_sub_one hparen hc, runStart_cursor tests_isBlank houtside,
            ok_bind]
          exact callee_cursor ((List.dropWhile_suffix Text.isBlank).trans houtside)

/-- **The scan for a literal goes through**, and finds what is read from the characters. -/
theorem openLiteral_cursor (cursor : List Char) :
    openLiteral (encode cursor.reverse) = .ok (Cursor.openLiteral? cursor) := by
  have hall : cursor <:+ cursor := List.suffix_rfl
  have htyped := slice_takeWhile Cursor.isPathPart hall
  have hquoted := (List.dropWhile_suffix Cursor.isPathPart).trans hall
  rw [openLiteral, length_cursor, runStart_cursor tests_isPathPart hall, ok_bind]
  unfold Cursor.openLiteral?
  cases hdrop : cursor.dropWhile Cursor.isPathPart with
  | nil => rfl
  | cons quote rest =>
      rw [hdrop] at htyped hquoted
      have hpos := byteLength_cons_pos quote rest
      rw [if_neg hpos.ne', back_of_le hpos, ok_bind, byteAt_cursor hquoted, ok_bind,
        tests_isOpening.lastByte_eq]
      change _ = Except.ok (if Cursor.isOpening quote = true then _ else _)
      cases hquote : Cursor.isOpening quote with
      | false => rfl
      | true =>
          obtain ⟨found, hfound, hcall⟩ :=
            opened_cursor ((List.suffix_cons quote rest).trans hquoted)
          rw [if_pos rfl, if_pos rfl, byteLength_cons_sub_one tests_isOpening hquote, hfound,
            ok_bind]
          refine Eq.trans ?_ (congrArg Except.ok (hcall ..).symm)
          cases found with
          | none => rfl
          | some call =>
              change (slice _ _ _ >>= fun typed => _) = _
              rw [htyped]
              rfl

/-! ### Receivers -/

/-- A text without the question mark in front of the cursor. -/
def unmarked : List Char → List Char
  | '?' :: before => before
  | before => before

theorem unmarked_suffix (before : List Char) : unmarked before <:+ before := by
  unfold unmarked
  split
  · exact List.suffix_cons ..
  · exact List.suffix_rfl

theorem beforeMark_cursor (h : before <:+ cursor) :
    beforeMark (encode cursor.reverse) (byteLength before)
      = .ok (byteLength (unmarked before)) := by
  cases before with
  | nil => rfl
  | cons c before =>
      have hpos := byteLength_cons_pos c before
      have hmark : Tests (· == 0x3F) (· == '?') := tests_beq (d := '?') (by decide)
      rw [beforeMark, if_neg hpos.ne', back_of_le hpos, ok_bind, byteAt_cursor h, ok_bind,
        hmark.lastByte_eq]
      cases hc : c == '?' with
      | true =>
          obtain rfl : c = '?' := by simpa using hc
          rw [if_pos rfl, byteLength_cons_sub_one hmark hc]
          rfl
      | false =>
          have hsame : unmarked (c :: before) = c :: before := by
            unfold unmarked
            split
            · rename_i h
              exact absurd (List.cons.inj h).1 (by simpa using hc)
            · rfl
          rw [if_neg (by simp), hsame]
          rfl

/-- The receiver ends before the arrow, a question mark and blanks. -/
theorem receiver?_eq (cursor : List Char) :
    Cursor.receiver? cursor =
      match (cursor.dropWhile Cursor.isWord).dropWhile Text.isBlank with
      | '>' :: '-' :: rest => some ((unmarked rest).dropWhile Text.isBlank)
      | _ => none := by
  unfold Cursor.receiver?
  generalize (cursor.dropWhile Cursor.isWord).dropWhile Text.isBlank = before
  split
  · rfl
  · rename_i rest hmark
    have hsame : unmarked rest = rest := by
      unfold unmarked
      split
      · exact (hmark _ rfl).elim
      · rfl
    change _ = some ((unmarked rest).dropWhile Text.isBlank)
    rw [hsame]
  · rename_i hmarked harrow
    split
    · exact (harrow _ rfl).elim
    · rfl

theorem receiver?_suffix {receiver : List Char} (h : Cursor.receiver? cursor = some receiver) :
    receiver <:+ cursor := by
  rw [receiver?_eq] at h
  split at h
  · rename_i rest hdrop
    obtain rfl := Option.some.inj h
    have harrow : '>' :: '-' :: rest <:+ cursor :=
      hdrop ▸ (List.dropWhile_suffix Text.isBlank).trans (List.dropWhile_suffix Cursor.isWord)
    exact (List.dropWhile_suffix Text.isBlank).trans <| (unmarked_suffix rest).trans <|
      (List.suffix_append ['>', '-'] rest).trans harrow
  · cases h

/-- **The scan for an arrow goes through**, and ends where the receiver does. -/
theorem receiverEnd_cursor (cursor : List Char) :
    receiverEnd (encode cursor.reverse) = .ok ((Cursor.receiver? cursor).map byteLength) := by
  have hall : cursor <:+ cursor := List.suffix_rfl
  have htyped := (List.dropWhile_suffix Cursor.isWord).trans hall
  have harrow := (List.dropWhile_suffix Text.isBlank).trans htyped
  rw [receiverEnd, length_cursor, runStart_cursor tests_isWord hall, ok_bind,
    runStart_cursor tests_isBlank htyped, ok_bind, receiver?_eq]
  generalize (cursor.dropWhile Cursor.isWord).dropWhile Text.isBlank = before at harrow ⊢
  by_cases hlong : byteLength before < 2
  · rw [if_pos hlong]
    split
    · exact absurd (two_le_byteLength ..) (Nat.not_le.2 hlong)
    · rfl
  · obtain ⟨arrow, hwindow, hread⟩ :=
      window_cursor (k := 2) harrow ['-', '>'] rfl (Nat.le_of_not_lt hlong)
    rw [if_neg hlong, back_of_le (Nat.le_of_not_lt hlong), ok_bind, hwindow, ok_bind]
    by_cases hfound : arrow = encode ['-', '>']
    · obtain ⟨rest, rfl⟩ := hread.1 hfound
      have hrest : rest <:+ cursor := (List.suffix_append ..).trans harrow
      have hlength : byteLength (['-', '>'].reverse ++ rest) - 2 = byteLength rest := by
        rw [Text.byteLength_append]
        exact Nat.add_sub_cancel_left ..
      rw [if_pos hfound, hlength, beforeMark_cursor hrest, ok_bind,
        runStart_cursor tests_isBlank ((unmarked_suffix rest).trans hrest), ok_bind]
      rfl
    · rw [if_neg hfound]
      split
      · rename_i rest
        exact absurd (hread.2 ⟨rest, rfl⟩) hfound
      · rfl

/-! ### Variables -/

/-- **The scan for a variable goes through**, and finds what is read from the characters. -/
theorem variableBefore_cursor (h : before <:+ cursor) :
    variableBefore (encode cursor.reverse) (byteLength before)
      = .ok (Cursor.variableBefore? before) := by
  have hname := (List.dropWhile_suffix Cursor.isWord).trans h
  have hsplit := List.takeWhile_append_dropWhile (p := Cursor.isWord) (l := before)
  rw [variableBefore, runStart_cursor tests_isWord h, ok_bind]
  unfold Cursor.variableBefore?
  cases hdrop : before.dropWhile Cursor.isWord with
  | nil =>
      rw [if_pos (.inr rfl)]
      rfl
  | cons c rest =>
      rw [hdrop] at hname hsplit
      have hpos := byteLength_cons_pos c rest
      have hdollar : Tests (· == 0x24) (· == '$') := tests_beq (d := '$') (by decide)
      have hempty : byteLength (c :: rest) = byteLength before ↔
          before.takeWhile Cursor.isWord = [] := by
        rw [← hdrop, byteLength_dropWhile_eq_iff]
      by_cases hguard : byteLength (c :: rest) = byteLength before ∨ byteLength (c :: rest) = 0
      · have hnone := hempty.1 (hguard.resolve_right hpos.ne')
        rw [if_pos hguard, hnone]
        split <;> rfl
      · rw [if_neg hguard, back_of_le hpos, ok_bind, byteAt_cursor hname, ok_bind,
          hdollar.lastByte_eq]
        cases hc : c == '$' with
        | false =>
            rw [if_neg (by simp)]
            split
            · rename_i h
              exact absurd (List.cons.inj h).1 (by simpa using hc)
            · rfl
        | true =>
            obtain rfl : c = '$' := by simpa using hc
            have hrun : before.takeWhile Cursor.isWord ++ ['$'] ++ rest = before := by
              simpa using hsplit
            have hslice := slice_cursor (before.takeWhile Cursor.isWord ++ ['$']) (hrun.symm ▸ h)
            have hname : before.takeWhile Cursor.isWord ≠ [] := fun hnone =>
              (not_or.1 hguard).1 (hempty.2 hnone)
            have hforwards : Cursor.forwards (before.takeWhile Cursor.isWord ++ ['$'])
                = "$" ++ Cursor.forwards (before.takeWhile Cursor.isWord) := by
              rw [Cursor.forwards, List.reverse_concat, String.ofList_cons]
              rfl
            rw [hrun] at hslice
            rw [if_pos rfl, byteLength_cons_sub_one hdollar hc, hslice, ok_bind, hforwards]
            exact congrArg Except.ok (if_neg (by simpa using hname)).symm

end Scans

/-- The variable that the beginning of a text ends with. -/
theorem variableBefore_encode (front rest : List Char) :
    variableBefore (encode (front ++ rest)) (byteLength front)
      = .ok (Cursor.variableBefore? front.reverse) := by
  have hscan := variableBefore_cursor (List.suffix_append rest.reverse front.reverse)
  rwa [List.reverse_append, List.reverse_reverse, List.reverse_reverse,
    Text.byteLength_reverse] at hscan

/-- The scan for a variable goes through from every offset of the text; inside a character there is
none. -/
theorem variableBefore_eq_ok_iff {text : List Char} {stop : Nat} :
    (∃ found, variableBefore (encode text) stop = .ok found) ↔ stop ≤ byteLength text := by
  rw [← Utf8.length_encode]
  constructor
  · rintro ⟨found, hfound⟩
    cases hrun : runStart isWordByte (encode text) stop with
    | ok start => exact runStart_eq_ok_iff.1 ⟨start, hrun⟩
    | error fault =>
        rw [variableBefore, hrun] at hfound
        cases hfound
  · intro hstop
    by_cases hbetween : Position.IsBoundary text stop
    · obtain ⟨front, rest, rfl, rfl⟩ := hbetween
      exact ⟨_, variableBefore_encode front rest⟩
    · rw [Utf8.length_encode] at hstop
      refine ⟨none, ?_⟩
      rw [variableBefore, runStart_of_not_isBoundary tests_isWord hstop hbetween, ok_bind,
        if_pos (.inl rfl)]
      rfl

end Bytes

end MockLens
