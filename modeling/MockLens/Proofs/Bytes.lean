/-
**A text, read by its bytes.**

Offsets count the bytes of a text in UTF-8, and a program that works with them may ask for what is
not there: a byte behind the last one, an offset before the first, or a text cut out at an offset
inside a character.  Here each such access says so.  An offset is one between two characters exactly
when no byte, or the first byte of a character, stands behind it, so that a text may be cut out
between two offsets exactly when these are the lengths of beginnings of the text.

The second half is about walking back from an offset while a test of single bytes holds.  The tests
are of characters of ASCII, each of which is a byte of its own, and every other character ends in a
byte that no test accepts.  So a walk that is begun behind a character ends behind a character, as
many characters earlier as the same test accepts one after the other.

Main definitions:

* `Bytes.Fault` — what can go wrong;
* `Bytes.byteAt`, `Bytes.back`, `Bytes.window`, `Bytes.textAt?`, `Bytes.slice` — a byte, an earlier
  offset, some bytes, and the text between two offsets;
* `Bytes.runStart` — where the run of bytes that ends at an offset begins;
* `Bytes.Tests` — a test of bytes that tells characters.

Main results:

* `Bytes.isBetween_iff` — the offsets between characters, told by the byte behind them;
* `Bytes.exists_of_encode_eq_append` — what ends the bytes of a text ends the text;
* `Bytes.textAt?_eq_some_iff` — the text between two offsets;
* `Bytes.runStart_eq_ok_iff` — a walk goes wrong only outside of the bytes;
* `Bytes.runStart_cursor` — **a walk from behind a character ends behind a character.**
-/
import MockLens.Completion.Cursor
import MockLens.Proofs.Positions
import MockLens.Proofs.Utf8

set_option autoImplicit false

namespace MockLens

namespace Bytes

open Position (IsBoundary)
open Text (byteLength)
open Utf8 (encode)

/-! ### Access to bytes -/

/-- What goes wrong in reading a text by its bytes. -/
inductive Fault where
  /-- A byte that the text does not have, or an offset before its first byte. -/
  | outside
  /-- A text between offsets of which one is inside a character, or not in order. -/
  | cut
  deriving DecidableEq, Repr

@[simp] theorem ok_bind {α β : Type} (a : α) (f : α → Except Fault β) :
    (Except.ok a >>= f) = f a := rfl

/-- The byte behind an offset. -/
def byteAt (bytes : List UInt8) (n : Nat) : Except Fault UInt8 :=
  match bytes[n]? with
  | some b => .ok b
  | none => .error .outside

/-- The offset `k` bytes earlier. -/
def back (n k : Nat) : Except Fault Nat := if k ≤ n then .ok (n - k) else .error .outside

/-- The bytes between two offsets. -/
def window (bytes : List UInt8) (start stop : Nat) : Except Fault (List UInt8) :=
  if start ≤ stop ∧ stop ≤ bytes.length then .ok (bytes.extract start stop)
  else .error .outside

/-- Whether an offset is one between two characters: what stands behind it begins a character. -/
def isBetween (bytes : List UInt8) (n : Nat) : Bool :=
  match bytes[n]? with
  | some b => b.IsUTF8FirstByte
  | none => n == bytes.length

/-- The text between two offsets, if both are offsets between two characters. -/
def textAt? (bytes : List UInt8) (start stop : Nat) : Option String :=
  if start ≤ stop ∧ isBetween bytes start ∧ isBetween bytes stop then
    Utf8.decode (bytes.extract start stop)
  else none

/-- The text between two offsets, which have to be offsets between two characters. -/
def slice (bytes : List UInt8) (start stop : Nat) : Except Fault String :=
  match textAt? bytes start stop with
  | some text => .ok text
  | none => .error .cut

theorem byteAt_of_getElem? {bytes : List UInt8} {n : Nat} {b : UInt8} (h : bytes[n]? = some b) :
    byteAt bytes n = .ok b := by
  rw [byteAt, h]

theorem back_of_le {n k : Nat} (h : k ≤ n) : back n k = .ok (n - k) := if_pos h

theorem window_of_le {bytes : List UInt8} {start stop : Nat} (h : start ≤ stop)
    (hstop : stop ≤ bytes.length) : window bytes start stop = .ok (bytes.extract start stop) :=
  if_pos ⟨h, hstop⟩

theorem slice_of_textAt? {bytes : List UInt8} {start stop : Nat} {text : String}
    (h : textAt? bytes start stop = some text) : slice bytes start stop = .ok text := by
  rw [slice, h]

/-! ### Offsets between characters -/

theorem utf8Size_eq_one {c : Char} (h : c.toNat < 128) : c.utf8Size = 1 := by
  rw [Char.utf8Size_eq_one_iff, UInt32.le_iff_toNat_le]
  exact Nat.le_of_lt_succ h

/-- Each byte of a text is one of a character. -/
theorem exists_char_at {text : List Char} {n : Nat} (h : n < byteLength text) :
    ∃ before c after k, text = before ++ c :: after ∧ n = byteLength before + k ∧
      k < c.utf8Size := by
  obtain ⟨before, c, ⟨after, rfl⟩, hbefore, hn⟩ :=
    Position.exists_around (Nat.succ_pos n) (Nat.succ_le_of_lt h)
  obtain ⟨k, rfl⟩ := Nat.exists_eq_add_of_le (Nat.le_of_lt_succ hbefore)
  exact ⟨before, c, after, k, by simp, rfl, by omega⟩

/-- A byte within the bytes of a text belongs to a character of the text. -/
theorem getElem?_encode_append_cons (before after : List Char) {c : Char} {k : Nat}
    (hk : k < c.utf8Size) :
    (encode (before ++ c :: after))[byteLength before + k]? = (String.utf8EncodeChar c)[k]? := by
  rw [Utf8.encode_append, Utf8.encode_cons, ← Utf8.length_encode,
    List.getElem?_append_right (Nat.le_add_right _ _), Nat.add_sub_cancel_left,
    List.getElem?_append_left]
  rwa [String.length_utf8EncodeChar]

/-- An offset is between two characters if the bytes of a character stand behind it. -/
theorem isBetween_of_drop_eq {bytes more : List UInt8} {n : Nat} {c : Char} {cs : List Char}
    (h : bytes.drop n = encode (c :: cs) ++ more) : isBetween bytes n = true := by
  have hpos : 0 < (String.utf8EncodeChar c).length := by
    rw [String.length_utf8EncodeChar]
    exact c.utf8Size_pos
  have hbyte : bytes[n]? = (String.utf8EncodeChar c)[0]? := by
    rw [← List.head?_drop, h, List.head?_eq_getElem?, Utf8.encode_cons, List.append_assoc,
      List.getElem?_append_left hpos]
  rw [isBetween, hbyte, List.getElem?_eq_getElem hpos]
  exact decide_eq_true UInt8.isUTF8FirstByte_getElem_zero_utf8EncodeChar

/-- **The offsets between two characters** are those behind which a character begins or nothing
stands. -/
theorem isBetween_iff {text : List Char} {n : Nat} :
    isBetween (encode text) n = true ↔ IsBoundary text n := by
  constructor
  · intro h
    rcases Nat.lt_trichotomy n (encode text).length with hlt | rfl | hgt
    · rw [Utf8.length_encode] at hlt
      obtain ⟨before, c, after, k, rfl, rfl, hk⟩ := exists_char_at hlt
      rw [isBetween, getElem?_encode_append_cons _ _ hk,
        List.getElem?_eq_getElem (by rwa [String.length_utf8EncodeChar])] at h
      -- of the bytes of a character only the first one begins it
      obtain rfl : k = 0 := UInt8.isUTF8FirstByte_getElem_utf8EncodeChar.1 (of_decide_eq_true h)
      exact ⟨before, c :: after, rfl, rfl⟩
    · exact ⟨text, [], by simp, Utf8.length_encode text⟩
    · rw [isBetween, List.getElem?_eq_none hgt.le] at h
      exact absurd (by simpa using h) hgt.ne'
  · rintro ⟨before, after, rfl, rfl⟩
    cases after with
    | nil => simp [isBetween, Utf8.length_encode]
    | cons c after =>
        have hdrop : (encode (before ++ c :: after)).drop (byteLength before)
            = encode (c :: after) ++ [] := by
          rw [Utf8.encode_append, List.drop_left' (Utf8.length_encode before), List.append_nil]
        exact isBetween_of_drop_eq hdrop

/-- A byte of ASCII is a character of its own. -/
theorem isBoundary_succ {text : List Char} {n : Nat} {b : UInt8} (h : (encode text)[n]? = some b)
    (hb : b.toNat < 128) : IsBoundary text (n + 1) := by
  have hlt : n < byteLength text := by
    rw [← Utf8.length_encode]
    exact (List.getElem?_eq_some_iff.1 h).1
  obtain ⟨before, c, after, k, rfl, rfl, hk⟩ := exists_char_at hlt
  rw [getElem?_encode_append_cons _ _ hk] at h
  have hback : (Char.ofNat b.toNat).toNat = b.toNat := Utf8.toNat_val_ofNat (.inl (by omega))
  have hchar := (Utf8.mem_encodeChar_iff (by omega) hback.symm).1 (List.mem_of_getElem? h)
  have hsize : c.utf8Size = 1 := utf8Size_eq_one (by rwa [hchar, hback])
  obtain rfl : k = 0 := by omega
  exact ⟨before ++ [c], after, by simp, by simp [hsize]⟩

/-- **What ends the bytes of a text ends the text.** -/
theorem exists_of_encode_eq_append {text post : List Char} {pre : List UInt8}
    (h : encode text = pre ++ encode post) :
    ∃ front, text = front ++ post ∧ pre = encode front := by
  cases post with
  | nil => exact ⟨text, by simp, by simpa [encode] using h.symm⟩
  | cons c post =>
      have hdrop : (encode text).drop pre.length = encode (c :: post) ++ [] := by
        rw [h, List.drop_left, List.append_nil]
      obtain ⟨front, back, rfl, hlength⟩ := isBetween_iff.1 (isBetween_of_drop_eq hdrop)
      rw [Utf8.encode_append] at h
      obtain ⟨rfl, hback⟩ := List.append_inj h (by rw [Utf8.length_encode, hlength])
      obtain ⟨rest, rfl, hrest⟩ :=
        Utf8.exists_of_encode_eq_append (hback.trans (List.append_nil _).symm)
      obtain rfl : rest = [] := by
        rw [← Text.byteLength_eq_zero_iff, ← Utf8.length_encode, ← hrest, List.length_nil]
      exact ⟨front, by rw [List.append_nil], rfl⟩

/-! ### Texts between offsets -/

theorem textAt?_encode (front mid rest : List Char) :
    textAt? (encode (front ++ mid ++ rest)) (byteLength front) (byteLength (front ++ mid))
      = some (String.ofList mid) := by
  have hstart : IsBoundary (front ++ mid ++ rest) (byteLength front) :=
    ⟨front, mid ++ rest, List.append_assoc .., rfl⟩
  have hstop : IsBoundary (front ++ mid ++ rest) (byteLength (front ++ mid)) :=
    ⟨front ++ mid, rest, rfl, rfl⟩
  rw [textAt?, if_pos ⟨by simp, isBetween_iff.2 hstart, isBetween_iff.2 hstop⟩,
    Utf8.extract_encode, Utf8.decode_eq_some_iff, String.toList_ofList]

/-- **The text between two offsets**: both are lengths of beginnings, and it is what the longer one
has more. -/
theorem textAt?_eq_some_iff {text : List Char} {start stop : Nat} {found : String} :
    textAt? (encode text) start stop = some found ↔
      ∃ front rest, text = front ++ found.toList ++ rest ∧ start = byteLength front ∧
        stop = byteLength (front ++ found.toList) := by
  constructor
  · intro h
    by_cases hcut : start ≤ stop ∧ isBetween (encode text) start = true ∧
        isBetween (encode text) stop = true
    · obtain ⟨hle, hstart, hstop⟩ := hcut
      obtain ⟨front, rest, rfl, rfl⟩ := isBetween_iff.1 hstart
      obtain ⟨long, after, hsplit, rfl⟩ := isBetween_iff.1 hstop
      obtain ⟨mid, rfl⟩ : front <+: long :=
        Text.prefix_of_byteLength_le (List.prefix_append ..) ⟨after, hsplit.symm⟩ hle
      rw [hsplit, textAt?_encode] at h
      obtain rfl := Option.some.inj h
      exact ⟨front, after, by simpa using hsplit, rfl, by simp⟩
    · rw [textAt?, if_neg hcut] at h
      cases h
  · rintro ⟨front, rest, rfl, rfl, rfl⟩
    rw [textAt?_encode, String.ofList_toList]

theorem slice_encode (front mid rest : List Char) :
    slice (encode (front ++ mid ++ rest)) (byteLength front) (byteLength (front ++ mid))
      = .ok (String.ofList mid) :=
  slice_of_textAt? (textAt?_encode front mid rest)

/-- An offset inside of a character cuts it. -/
example : slice (encode "né".toList) 0 2 = .error .cut := by decide

/-- The beginning of a text is cut out at its length. -/
theorem textAt?_front (front rest : List Char) :
    textAt? (encode (front ++ rest)) 0 (byteLength front) = some (String.ofList front) :=
  textAt?_encode [] front rest

theorem slice_front (front rest : List Char) :
    slice (encode (front ++ rest)) 0 (byteLength front) = .ok (String.ofList front) :=
  slice_of_textAt? (textAt?_front front rest)

/-- What stands behind the beginning of a text is cut out from there. -/
theorem slice_rest (front rest : List Char) :
    slice (encode (front ++ rest)) (byteLength front) (encode (front ++ rest)).length
      = .ok (String.ofList rest) := by
  have hslice := slice_encode front rest []
  rwa [List.append_nil, ← Utf8.length_encode (front ++ rest)] at hslice

/-! ### Tests of bytes -/

/-- The last byte of a character. -/
def lastByte (c : Char) : UInt8 :=
  (String.utf8EncodeChar c).getLast String.utf8EncodeChar_ne_nil

theorem getElem?_encode_concat (cs : List Char) (c : Char) (rest : List UInt8) :
    (encode (cs ++ [c]) ++ rest)[byteLength (cs ++ [c]) - 1]? = some (lastByte c) := by
  have hsize := c.utf8Size_pos
  have hlength : byteLength (cs ++ [c]) = byteLength cs + c.utf8Size := by simp
  have hlt : byteLength (cs ++ [c]) - 1 < (encode (cs ++ [c])).length := by
    rw [Utf8.length_encode, hlength]
    omega
  have hoffset : byteLength (cs ++ [c]) - 1 = byteLength cs + (c.utf8Size - 1) := by omega
  have hlast : c.utf8Size - 1 < (String.utf8EncodeChar c).length := by
    rw [String.length_utf8EncodeChar]
    omega
  rw [List.getElem?_append_left hlt, hoffset, getElem?_encode_append_cons _ _ (by omega), lastByte,
    List.getLast_eq_getElem, List.getElem?_eq_getElem hlast]
  simp only [String.length_utf8EncodeChar]

/-- A test of single bytes that tells characters of ASCII as `p` does.  No byte of any other
character passes it. -/
structure Tests (test : UInt8 → Bool) (p : Char → Bool) : Prop where
  onAscii : ∀ n < 128, test (UInt8.ofNat n) = p (Char.ofNat n)
  byte_beyond : ∀ b : UInt8, 128 ≤ b.toNat → test b = false
  char_beyond : ∀ c : Char, 128 ≤ c.toNat → p c = false

theorem lastByte_of_lt {c : Char} (h : c.toNat < 128) : lastByte c = UInt8.ofNat c.toNat := by
  have hbytes := String.utf8EncodeChar_eq_singleton (utf8Size_eq_one h)
  simp only [lastByte, hbytes, List.getLast_singleton]
  rfl

/-- Behind the first byte of a character there are no bytes of ASCII. -/
theorem le_lastByte {c : Char} (h : 128 ≤ c.toNat) : 128 ≤ (lastByte c).toNat := by
  have hascii : ∀ n < 128, (UInt8.ofNat n).IsUTF8FirstByte := by decide
  by_contra hlt
  have hfirst := hascii _ (Nat.lt_of_not_le hlt)
  rw [UInt8.ofNat_toNat, lastByte, List.getLast_eq_getElem,
    UInt8.isUTF8FirstByte_getElem_utf8EncodeChar, String.length_utf8EncodeChar] at hfirst
  have hpos := c.utf8Size_pos
  have hsize : c.utf8Size = 1 := by omega
  rw [Char.utf8Size_eq_one_iff, UInt32.le_iff_toNat_le] at hsize
  exact absurd h (Nat.not_le.2 (Nat.lt_succ_of_le hsize))

namespace Tests

variable {test : UInt8 → Bool} {p : Char → Bool} (h : Tests test p)

include h

/-- A test is of the last byte of a character what it is of the character. -/
theorem lastByte_eq (c : Char) : test (lastByte c) = p c := by
  rcases Nat.lt_or_ge c.toNat 128 with hlt | hge
  · rw [lastByte_of_lt hlt, h.onAscii _ hlt, Char.ofNat_toNat]
  · rw [h.byte_beyond _ (le_lastByte hge), h.char_beyond c hge]

theorem utf8Size_eq {c : Char} (hc : p c = true) : c.utf8Size = 1 := by
  refine utf8Size_eq_one (Nat.lt_of_not_le fun hge => ?_)
  rw [h.char_beyond c hge] at hc
  cases hc

end Tests

theorem Tests.or {test test' : UInt8 → Bool} {p p' : Char → Bool} (h : Tests test p)
    (h' : Tests test' p') : Tests (fun b => test b || test' b) (fun c => p c || p' c) where
  onAscii n hn := by rw [h.onAscii n hn, h'.onAscii n hn]
  byte_beyond b hb := by rw [h.byte_beyond b hb, h'.byte_beyond b hb, Bool.or_self]
  char_beyond c hc := by rw [h.char_beyond c hc, h'.char_beyond c hc, Bool.or_self]

/-- The test for one character of ASCII. -/
theorem tests_beq {d : Char} (hd : d.toNat < 128) :
    Tests (· == UInt8.ofNat d.toNat) (· == d) where
  onAscii n hn := by
    have hbyte : UInt8.ofNat n = UInt8.ofNat d.toNat ↔ n = d.toNat := by
      rw [← UInt8.toNat_inj, Utf8.toNat_byte (by omega), Utf8.toNat_byte (by omega)]
    have hback : (Char.ofNat n).toNat = n := Utf8.toNat_val_ofNat (.inl (by omega))
    have hchar : Char.ofNat n = d ↔ n = d.toNat := by rw [← Char.toNat_inj, hback]
    rw [Bool.eq_iff_iff, beq_iff_eq, beq_iff_eq, hbyte, hchar]
  byte_beyond b hb := by
    refine beq_eq_false_iff_ne.2 fun heq => ?_
    rw [heq, Utf8.toNat_byte (by omega)] at hb
    omega
  char_beyond c hc := by
    refine beq_eq_false_iff_ne.2 fun heq => ?_
    rw [heq] at hc
    omega

/-! ### Behind a cursor

The characters in front of a cursor are listed as they are read, the nearest first.  An offset that
has been reached is the number of bytes of those that are left. -/

section Cursor

variable {cursor before : List Char} {c : Char}

theorem byteLength_cons_pos (c : Char) (cs : List Char) : 0 < byteLength (c :: cs) := by
  rw [Text.byteLength_cons]
  exact Nat.add_pos_left c.utf8Size_pos _

theorem encode_cursor (h : before <:+ cursor) :
    ∃ rest : List Char, encode cursor.reverse = encode before.reverse ++ encode rest := by
  obtain ⟨passed, rfl⟩ := h
  exact ⟨passed.reverse, by rw [List.reverse_append, Utf8.encode_append]⟩

theorem byteLength_le (h : before <:+ cursor) :
    byteLength before ≤ (encode cursor.reverse).length := by
  obtain ⟨passed, rfl⟩ := h
  simp [Utf8.length_encode]

/-- The byte in front of an offset is the last one of a character. -/
theorem byteAt_cursor (h : c :: before <:+ cursor) :
    byteAt (encode cursor.reverse) (byteLength (c :: before) - 1) = .ok (lastByte c) := by
  obtain ⟨rest, hrest⟩ := encode_cursor h
  have hbyte := getElem?_encode_concat before.reverse c (encode rest)
  rw [← List.reverse_cons, Text.byteLength_reverse] at hbyte
  rw [hrest]
  exact byteAt_of_getElem? hbyte

/-- The bytes in front of an offset are those of characters exactly when these stand there. -/
theorem window_cursor (h : before <:+ cursor) (mark : List Char) {k : Nat}
    (hk : byteLength mark = k) (hle : k ≤ byteLength before) :
    ∃ found, window (encode cursor.reverse) (byteLength before - k) (byteLength before)
        = .ok found ∧ (found = encode mark ↔ mark.reverse <+: before) := by
  refine ⟨(encode before.reverse).drop (byteLength before - k), ?_, ?_⟩
  · obtain ⟨rest, hrest⟩ := encode_cursor h
    have hlength : (encode before.reverse).length = byteLength before := by
      rw [Utf8.length_encode, Text.byteLength_reverse]
    rw [window_of_le (Nat.sub_le ..) (byteLength_le h), hrest, List.extract_eq_take_drop,
      List.drop_append_of_le_length (by omega), List.take_left' (by rw [List.length_drop, hlength])]
  · constructor
    · intro hfound
      have hbytes := (List.take_append_drop (byteLength before - k) (encode before.reverse)).symm
      rw [hfound] at hbytes
      obtain ⟨front, hfront, -⟩ := exists_of_encode_eq_append hbytes
      exact ⟨front.reverse, by simpa using (congrArg List.reverse hfront).symm⟩
    · rintro ⟨rest, rfl⟩
      rw [List.reverse_append, List.reverse_reverse, Utf8.encode_append, Text.byteLength_append,
        Text.byteLength_reverse, hk, Nat.add_sub_cancel_left]
      exact List.drop_left' (by rw [Utf8.length_encode, Text.byteLength_reverse])

/-- The text between two offsets that have been reached. -/
theorem slice_cursor (run : List Char) (h : run ++ before <:+ cursor) :
    slice (encode cursor.reverse) (byteLength before) (byteLength (run ++ before))
      = .ok (Cursor.forwards run) := by
  obtain ⟨passed, rfl⟩ := h
  have hslice := slice_encode before.reverse run.reverse passed.reverse
  rw [← List.reverse_append, ← List.reverse_append, Text.byteLength_reverse,
    Text.byteLength_reverse] at hslice
  exact hslice

end Cursor

/-! ### Walking back -/

/-- Walks back from an offset while the byte in front of it passes a test, and gives the offset
reached. -/
def runStart (test : UInt8 → Bool) (bytes : List UInt8) : Nat → Except Fault Nat
  | 0 => .ok 0
  | n + 1 => do
    if test (← byteAt bytes n) then runStart test bytes n else .ok (n + 1)

/-- **A walk goes wrong only outside of the bytes.** -/
theorem runStart_eq_ok_iff {test : UInt8 → Bool} {bytes : List UInt8} {stop : Nat} :
    (∃ start, runStart test bytes stop = .ok start) ↔ stop ≤ bytes.length := by
  cases stop with
  | zero => exact iff_of_true ⟨0, rfl⟩ (Nat.zero_le _)
  | succ n =>
      rcases Nat.lt_or_ge n bytes.length with hlt | hge
      · refine iff_of_true ?_ hlt
        rw [runStart, byteAt_of_getElem? (List.getElem?_eq_getElem hlt), ok_bind]
        split
        · exact runStart_eq_ok_iff.2 hlt.le
        · exact ⟨n + 1, rfl⟩
      · have hbyte : byteAt bytes n = .error .outside := by
          rw [byteAt, List.getElem?_eq_none hge]
        refine iff_of_false ?_ (Nat.not_le.2 (Nat.lt_succ_of_le hge))
        rw [runStart, hbyte]
        rintro ⟨start, hstart⟩
        cases hstart

/-- **A walk from behind a character ends behind a character.** -/
theorem runStart_cursor {test : UInt8 → Bool} {p : Char → Bool} (ht : Tests test p)
    {cursor before : List Char} (h : before <:+ cursor) :
    runStart test (encode cursor.reverse) (byteLength before)
      = .ok (byteLength (before.dropWhile p)) := by
  induction before with
  | nil => rfl
  | cons c before ih =>
      obtain ⟨n, hn⟩ := Nat.exists_eq_add_one.2 (byteLength_cons_pos c before)
      have hbyte := byteAt_cursor h
      rw [hn, Nat.add_sub_cancel] at hbyte
      rw [hn, runStart, hbyte, ok_bind, ht.lastByte_eq]
      cases hc : p c with
      | true =>
          have hsize := ht.utf8Size_eq hc
          obtain rfl : n = byteLength before := by
            rw [Text.byteLength_cons, hsize] at hn
            omega
          rw [if_pos rfl, ih ((List.suffix_cons c before).trans h), List.dropWhile_cons_of_pos hc]
      | false => rw [if_neg (by simp), List.dropWhile_cons_of_neg (by simp [hc]), hn]

/-- Inside a character a walk ends where it is begun. -/
theorem runStart_of_not_isBoundary {test : UInt8 → Bool} {p : Char → Bool} (ht : Tests test p)
    {text : List Char} {stop : Nat} (hstop : stop ≤ byteLength text)
    (hinside : ¬ IsBoundary text stop) : runStart test (encode text) stop = .ok stop := by
  cases stop with
  | zero => exact absurd ⟨[], text, rfl, rfl⟩ hinside
  | succ n =>
      have hlt : n < (encode text).length := by rwa [Utf8.length_encode]
      have hb := List.getElem?_eq_getElem hlt
      have hbeyond : test (encode text)[n] = false :=
        ht.byte_beyond _ (Nat.le_of_not_lt fun hascii => hinside (isBoundary_succ hb hascii))
      rw [runStart, byteAt_of_getElem? hb, ok_bind, hbeyond]
      rfl

end Bytes

end MockLens
