/-
**UTF-8, written and read back.**

The reader takes one byte at a time and knows of a character only how many bytes are owed and which
of them are allowed (`MockLens/Text/Utf8.lean`).  Characters are written with one to four bytes, and
for each number of bytes the reader, begun between two characters, is brought between the next two
by exactly those bytes.  Hence it accepts the encodings of texts and nothing else, and it reads what
was written.

Main results:

* `Utf8.readFrom_encodeChar` — a character is read from its bytes;
* `Utf8.exists_encodeChar_append` — bytes that are read begin with those of a character;
* `Utf8.mem_encode_iff` — a byte below 0x80 is a character of its own;
* `Utf8.exists_of_encode_eq_append` — what begins the bytes of a text begins the text;
* `Utf8.decode_eq_some_iff` — **the reader accepts exactly the encodings.**
-/
import MockLens.Text.Utf8
import MockLens.Proofs.Text
import Mathlib.Data.List.Basic

set_option autoImplicit false

namespace MockLens

namespace Utf8

/-! ### Single bytes -/

theorem toNat_byte {n : Nat} (h : n < 256) : (UInt8.ofNat n).toNat = n :=
  UInt8.toNat_ofNat_of_lt' h

theorem ofNat_eq_of_toNat {b : UInt8} {n : Nat} (h : b.toNat = n) : UInt8.ofNat n = b := by
  rw [← h, UInt8.ofNat_toNat]

theorem next_finished {low high value b : Nat} (hlow : low ≤ b) (hhigh : b ≤ high) :
    next ⟨0, low, high, value⟩ b = .finished (value * 64 + (b - 0x80)) := by
  simp [next, hlow, hhigh]

theorem next_more {owed low high value b : Nat} (hlow : low ≤ b) (hhigh : b ≤ high) :
    next ⟨owed + 1, low, high, value⟩ b
      = .more ⟨owed, 0x80, 0xBF, value * 64 + (b - 0x80)⟩ := by
  simp [next, hlow, hhigh]

section Bytes

variable {b : UInt8} {n value : Nat} {p q : Progress} {chars : List Char} {bs : List UInt8}

theorem readFrom_first_finished (hb : b.toNat = n) (h : first n = .finished value) :
    readFrom chars none (b :: bs) = readFrom (Char.ofNat value :: chars) none bs := by
  rw [readFrom, hb, h]

theorem readFrom_first_more (hb : b.toNat = n) (h : first n = .more p) :
    readFrom chars none (b :: bs) = readFrom chars (some p) bs := by
  rw [readFrom, hb, h]

theorem readFrom_next_finished (hb : b.toNat = n) (h : next p n = .finished value) :
    readFrom chars (some p) (b :: bs) = readFrom (Char.ofNat value :: chars) none bs := by
  rw [readFrom, hb, h]

theorem readFrom_next_more (hb : b.toNat = n) (h : next p n = .more q) :
    readFrom chars (some p) (b :: bs) = readFrom chars (some q) bs := by
  rw [readFrom, hb, h]

/-- Inside a character a byte follows, and it is one of those allowed. -/
theorem exists_next {out : List Char} (h : readFrom chars (some p) bs = (out, true)) :
    ∃ b rest, bs = b :: rest ∧ p.low ≤ b.toNat ∧ b.toNat ≤ p.high := by
  cases bs with
  | nil => simp [readFrom] at h
  | cons b rest =>
      refine ⟨b, rest, rfl, ?_⟩
      by_contra hrange
      have hnext : next p b.toNat = .refused := by rw [next, if_neg (by simpa using hrange)]
      simp [readFrom, hnext] at h

end Bytes

/-! ### From a character to its bytes -/

/-- **A character is read from its bytes.** -/
theorem readFrom_encodeChar (c : Char) (chars : List Char) (bs : List UInt8) :
    readFrom chars none (String.utf8EncodeChar c ++ bs) = readFrom (c :: chars) none bs := by
  have hvalid : c.val.toNat.isValidChar := c.valid
  have hback : Char.ofNat c.val.toNat = c := Char.ofNat_toNat c
  unfold Nat.isValidChar at hvalid
  unfold String.utf8EncodeChar
  generalize c.val.toNat = v at hvalid hback ⊢
  dsimp only
  split_ifs with h1 h2 h3
  · have hfirst : first v = .finished v := if_pos (by omega)
    rw [List.singleton_append, readFrom_first_finished (toNat_byte (by omega)) hfirst, hback]
  · have hfirst : first (v / 64 % 32 + 192) = .more ⟨0, 0x80, 0xBF, v / 64 % 32⟩ := by
      rw [first, if_neg (by omega), if_neg (by omega), if_pos (by omega)]
      simp
    have hvalue : v / 64 % 32 * 64 + (v % 64 + 128 - 0x80) = v := by omega
    rw [List.cons_append, List.singleton_append, readFrom_first_more (toNat_byte (by omega)) hfirst,
      readFrom_next_finished (toNat_byte (by omega)) (next_finished (by omega) (by omega)), hvalue,
      hback]
  · have hfirst : first (v / 4096 % 16 + 224)
        = .more ⟨1, if v / 4096 % 16 + 224 = 0xE0 then 0xA0 else 0x80,
            if v / 4096 % 16 + 224 = 0xED then 0x9F else 0xBF, v / 4096 % 16⟩ := by
      rw [first, if_neg (by omega), if_neg (by omega), if_neg (by omega), if_pos (by omega)]
      simp
    -- the bounds of the second byte keep out overlong forms and surrogates
    have hsecond : (if v / 4096 % 16 + 224 = 0xE0 then 0xA0 else 0x80) ≤ v / 64 % 64 + 128 ∧
        v / 64 % 64 + 128 ≤ (if v / 4096 % 16 + 224 = 0xED then 0x9F else 0xBF) := by
      split_ifs <;> omega
    have hvalue : (v / 4096 % 16 * 64 + (v / 64 % 64 + 128 - 0x80)) * 64
        + (v % 64 + 128 - 0x80) = v := by omega
    rw [List.cons_append, List.cons_append, List.singleton_append,
      readFrom_first_more (toNat_byte (by omega)) hfirst,
      readFrom_next_more (toNat_byte (by omega)) (next_more hsecond.1 hsecond.2),
      readFrom_next_finished (toNat_byte (by omega)) (next_finished (by omega) (by omega)), hvalue,
      hback]
  · have hfirst : first (v / 262144 % 8 + 240)
        = .more ⟨2, if v / 262144 % 8 + 240 = 0xF0 then 0x90 else 0x80,
            if v / 262144 % 8 + 240 = 0xF4 then 0x8F else 0xBF, v / 262144 % 8⟩ := by
      rw [first, if_neg (by omega), if_neg (by omega), if_neg (by omega), if_neg (by omega),
        if_pos (by omega)]
      simp
    have hsecond : (if v / 262144 % 8 + 240 = 0xF0 then 0x90 else 0x80) ≤ v / 4096 % 64 + 128 ∧
        v / 4096 % 64 + 128 ≤ (if v / 262144 % 8 + 240 = 0xF4 then 0x8F else 0xBF) := by
      split_ifs <;> omega
    have hvalue : ((v / 262144 % 8 * 64 + (v / 4096 % 64 + 128 - 0x80)) * 64
        + (v / 64 % 64 + 128 - 0x80)) * 64 + (v % 64 + 128 - 0x80) = v := by omega
    rw [List.cons_append, List.cons_append, List.cons_append, List.singleton_append,
      readFrom_first_more (toNat_byte (by omega)) hfirst,
      readFrom_next_more (toNat_byte (by omega)) (next_more hsecond.1 hsecond.2),
      readFrom_next_more (toNat_byte (by omega)) (next_more (by omega) (by omega)),
      readFrom_next_finished (toNat_byte (by omega)) (next_finished (by omega) (by omega)), hvalue,
      hback]

/-! ### From bytes to a character -/

theorem toNat_val_ofNat {v : Nat} (h : v.isValidChar) : (Char.ofNat v).val.toNat = v := by
  rw [Char.ofNat, dif_pos h]
  rfl

section Written

variable {a b c d : UInt8}

theorem exists_encodeChar_one (ha : a.toNat < 0x80) : ∃ x, String.utf8EncodeChar x = [a] := by
  refine ⟨Char.ofNat a.toNat, ?_⟩
  rw [String.utf8EncodeChar, toNat_val_ofNat (.inl (by omega)), if_pos (by omega),
    UInt8.ofNat_toNat]

theorem exists_encodeChar_two (ha : 0xC2 ≤ a.toNat ∧ a.toNat < 0xE0)
    (hb : 0x80 ≤ b.toNat ∧ b.toNat ≤ 0xBF) : ∃ x, String.utf8EncodeChar x = [a, b] := by
  refine ⟨Char.ofNat ((a.toNat - 0xC0) * 64 + (b.toNat - 0x80)), ?_⟩
  rw [String.utf8EncodeChar, toNat_val_ofNat (.inl (by omega)), if_neg (by omega),
    if_pos (by omega), ofNat_eq_of_toNat (b := a) (by omega),
    ofNat_eq_of_toNat (b := b) (by omega)]

theorem exists_encodeChar_three (ha : 0xE0 ≤ a.toNat ∧ a.toNat < 0xF0)
    (hb : (if a.toNat = 0xE0 then 0xA0 else 0x80) ≤ b.toNat ∧
      b.toNat ≤ if a.toNat = 0xED then 0x9F else 0xBF)
    (hc : 0x80 ≤ c.toNat ∧ c.toNat ≤ 0xBF) : ∃ x, String.utf8EncodeChar x = [a, b, c] := by
  refine ⟨Char.ofNat (((a.toNat - 0xE0) * 64 + (b.toNat - 0x80)) * 64 + (c.toNat - 0x80)), ?_⟩
  have hb' : 0x80 ≤ b.toNat ∧ b.toNat ≤ 0xBF := by split_ifs at hb <;> omega
  -- no overlong form, and no surrogate
  have hlong : a.toNat = 0xE0 → 0xA0 ≤ b.toNat := fun h => by simpa [h] using hb.1
  have hsurrogate : a.toNat = 0xED → b.toNat ≤ 0x9F := fun h => by simpa [h] using hb.2
  clear hb
  rw [String.utf8EncodeChar, toNat_val_ofNat (by unfold Nat.isValidChar; omega), if_neg (by omega),
    if_neg (by omega), if_pos (by omega), ofNat_eq_of_toNat (b := a) (by omega),
    ofNat_eq_of_toNat (b := b) (by omega), ofNat_eq_of_toNat (b := c) (by omega)]

theorem exists_encodeChar_four (ha : 0xF0 ≤ a.toNat ∧ a.toNat < 0xF5)
    (hb : (if a.toNat = 0xF0 then 0x90 else 0x80) ≤ b.toNat ∧
      b.toNat ≤ if a.toNat = 0xF4 then 0x8F else 0xBF)
    (hc : 0x80 ≤ c.toNat ∧ c.toNat ≤ 0xBF) (hd : 0x80 ≤ d.toNat ∧ d.toNat ≤ 0xBF) :
    ∃ x, String.utf8EncodeChar x = [a, b, c, d] := by
  refine ⟨Char.ofNat ((((a.toNat - 0xF0) * 64 + (b.toNat - 0x80)) * 64 + (c.toNat - 0x80)) * 64
    + (d.toNat - 0x80)), ?_⟩
  have hb' : 0x80 ≤ b.toNat ∧ b.toNat ≤ 0xBF := by split_ifs at hb <;> omega
  -- no overlong form, and nothing above the last code point
  have hlong : a.toNat = 0xF0 → 0x90 ≤ b.toNat := fun h => by simpa [h] using hb.1
  have hlast : a.toNat = 0xF4 → b.toNat ≤ 0x8F := fun h => by simpa [h] using hb.2
  clear hb
  rw [String.utf8EncodeChar, toNat_val_ofNat (by unfold Nat.isValidChar; omega), if_neg (by omega),
    if_neg (by omega), if_neg (by omega), ofNat_eq_of_toNat (b := a) (by omega),
    ofNat_eq_of_toNat (b := b) (by omega), ofNat_eq_of_toNat (b := c) (by omega),
    ofNat_eq_of_toNat (b := d) (by omega)]

end Written

/-- **Bytes that are read begin with those of a character.** -/
theorem exists_encodeChar_append {a : UInt8} {bs : List UInt8} {chars out : List Char}
    (h : readFrom chars none (a :: bs) = (out, true)) :
    ∃ x rest, a :: bs = String.utf8EncodeChar x ++ rest := by
  by_cases h1 : a.toNat < 0x80
  · obtain ⟨x, hx⟩ := exists_encodeChar_one h1
    exact ⟨x, bs, by rw [hx, List.singleton_append]⟩
  by_cases h2 : a.toNat < 0xC2
  · have hfirst : first a.toNat = .refused := by rw [first, if_neg h1, if_pos h2]
    simp [readFrom, hfirst] at h
  by_cases h3 : a.toNat < 0xE0
  · have hfirst : first a.toNat = .more ⟨0, 0x80, 0xBF, a.toNat - 0xC0⟩ := by
      rw [first, if_neg h1, if_neg h2, if_pos h3]
    rw [readFrom_first_more rfl hfirst] at h
    obtain ⟨b, rest, rfl, hb⟩ := exists_next h
    obtain ⟨x, hx⟩ := exists_encodeChar_two ⟨by omega, h3⟩ hb
    exact ⟨x, rest, by rw [hx]; rfl⟩
  by_cases h4 : a.toNat < 0xF0
  · have hfirst : first a.toNat = .more ⟨1, if a.toNat = 0xE0 then 0xA0 else 0x80,
        if a.toNat = 0xED then 0x9F else 0xBF, a.toNat - 0xE0⟩ := by
      rw [first, if_neg h1, if_neg h2, if_neg h3, if_pos h4]
    rw [readFrom_first_more rfl hfirst] at h
    obtain ⟨b, bs, rfl, hb⟩ := exists_next h
    rw [readFrom_next_more rfl (next_more hb.1 hb.2)] at h
    obtain ⟨c, rest, rfl, hc⟩ := exists_next h
    obtain ⟨x, hx⟩ := exists_encodeChar_three ⟨by omega, h4⟩ hb hc
    exact ⟨x, rest, by rw [hx]; rfl⟩
  by_cases h5 : a.toNat < 0xF5
  · have hfirst : first a.toNat = .more ⟨2, if a.toNat = 0xF0 then 0x90 else 0x80,
        if a.toNat = 0xF4 then 0x8F else 0xBF, a.toNat - 0xF0⟩ := by
      rw [first, if_neg h1, if_neg h2, if_neg h3, if_neg h4, if_pos h5]
    rw [readFrom_first_more rfl hfirst] at h
    obtain ⟨b, bs, rfl, hb⟩ := exists_next h
    rw [readFrom_next_more rfl (next_more hb.1 hb.2)] at h
    obtain ⟨c, bs, rfl, hc⟩ := exists_next h
    rw [readFrom_next_more rfl (next_more hc.1 hc.2)] at h
    obtain ⟨d, rest, rfl, hd⟩ := exists_next h
    obtain ⟨x, hx⟩ := exists_encodeChar_four ⟨by omega, h5⟩ hb hc hd
    exact ⟨x, rest, by rw [hx]; rfl⟩
  · have hfirst : first a.toNat = .refused := by
      rw [first, if_neg h1, if_neg h2, if_neg h3, if_neg h4, if_neg h5]
    simp [readFrom, hfirst] at h

/-! ### Characters of ASCII among bytes -/

section Ascii

variable {b : UInt8} {c : Char} (hc : c.toNat < 0x80) (hb : b.toNat = c.toNat)

include hc hb

theorem mem_encodeChar_iff {d : Char} : b ∈ String.utf8EncodeChar d ↔ d = c := by
  have hbyte : ∀ {n : Nat}, n < 256 → (b = UInt8.ofNat n ↔ c.toNat = n) := by
    intro n hn
    rw [← UInt8.toNat_inj, toNat_byte hn, hb]
  have hchar : d = c ↔ d.val.toNat = c.toNat := by
    rw [← Char.toNat_inj]
    rfl
  simp only [String.utf8EncodeChar]
  split
  · rw [List.mem_singleton, hbyte (by omega), hchar, eq_comm]
  -- every other form has bytes from 0x80 on, and the character is beyond ASCII
  split
  · rw [hchar]
    simp only [List.mem_cons, List.not_mem_nil, or_false]
    rw [hbyte (by omega), hbyte (by omega)]
    omega
  split
  · rw [hchar]
    simp only [List.mem_cons, List.not_mem_nil, or_false]
    rw [hbyte (by omega), hbyte (by omega), hbyte (by omega)]
    omega
  · rw [hchar]
    simp only [List.mem_cons, List.not_mem_nil, or_false]
    rw [hbyte (by omega), hbyte (by omega), hbyte (by omega), hbyte (by omega)]
    omega

/-- The byte of a character of ASCII stands for that character wherever it occurs. -/
theorem mem_encode_iff {cs : List Char} : b ∈ encode cs ↔ c ∈ cs := by
  simp only [encode, List.mem_flatMap, mem_encodeChar_iff hc hb, exists_eq_right]

end Ascii

/-! ### Texts -/

theorem encode_cons (c : Char) (cs : List Char) :
    encode (c :: cs) = String.utf8EncodeChar c ++ encode cs := List.flatMap_cons

theorem length_encode_cons (c : Char) (cs : List Char) :
    (encode (c :: cs)).length = c.utf8Size + (encode cs).length := by
  rw [encode_cons, List.length_append, String.length_utf8EncodeChar]

theorem length_encode_drop_le (n : Nat) (cs : List Char) :
    (encode (cs.drop n)).length ≤ (encode cs).length := by
  conv_rhs => rw [← List.take_append_drop n cs, encode, List.flatMap_append,
    List.length_append, ← encode, ← encode]
  exact Nat.le_add_left _ _

theorem encode_append (as bs : List Char) : encode (as ++ bs) = encode as ++ encode bs :=
  List.flatMap_append

theorem encode_concat (cs : List Char) (c : Char) :
    encode (cs ++ [c]) = encode cs ++ String.utf8EncodeChar c := by
  rw [encode_append, encode, encode, List.flatMap_singleton]

theorem length_encode (cs : List Char) : (encode cs).length = Text.byteLength cs := by
  induction cs with
  | nil => rfl
  | cons c cs ih => rw [length_encode_cons, ih, Text.byteLength_cons]

theorem extract_encode (before piece after : List Char) :
    (encode (before ++ piece ++ after)).extract (Text.byteLength before)
      (Text.byteLength (before ++ piece)) = encode piece := by
  rw [encode_append, encode_append, ← length_encode, ← length_encode, encode_append]
  simp

theorem readFrom_encode_append (cs chars : List Char) (bs : List UInt8) :
    readFrom chars none (encode cs ++ bs) = readFrom (cs.reverse ++ chars) none bs := by
  induction cs generalizing chars with
  | nil => rfl
  | cons c cs ih =>
      rw [encode_cons, List.append_assoc, readFrom_encodeChar, ih,
        List.reverse_cons, List.append_assoc, List.singleton_append]

theorem readFrom_encode (cs chars : List Char) :
    readFrom chars none (encode cs) = (cs.reverse ++ chars, true) := by
  have hread := readFrom_encode_append cs chars []
  rw [List.append_nil] at hread
  exact hread

theorem eq_encode_of_readFrom {chars out : List Char} :
    ∀ {bs : List UInt8}, readFrom chars none bs = (out, true) →
      ∃ cs, bs = encode cs
  | [], _ => ⟨[], rfl⟩
  | a :: bs, h => by
      obtain ⟨x, rest, heq⟩ := exists_encodeChar_append h
      rw [heq, readFrom_encodeChar] at h
      have hlt : rest.length < bs.length + 1 := by
        have hlength := congrArg List.length heq
        have hpos : 0 < (String.utf8EncodeChar x).length :=
          List.length_pos_iff.2 (String.utf8EncodeChar_ne_nil)
        simp only [List.length_cons, List.length_append] at hlength
        omega
      obtain ⟨cs, rfl⟩ := eq_encode_of_readFrom h
      exact ⟨x :: cs, by rw [heq, encode_cons]⟩
  termination_by bs => bs.length

/-- Where the bytes of a text begin with those of another one, so do its characters. -/
theorem exists_of_encode_eq_append {cs pre : List Char} {rest : List UInt8}
    (h : encode cs = encode pre ++ rest) : ∃ post, cs = pre ++ post ∧ rest = encode post := by
  have hread : readFrom pre.reverse none rest = (cs.reverse, true) := by
    rw [← List.append_nil pre.reverse, ← readFrom_encode_append, ← h, readFrom_encode,
      List.append_nil]
  obtain ⟨post, rfl⟩ := eq_encode_of_readFrom hread
  rw [readFrom_encode, Prod.mk.injEq, ← List.reverse_append, List.reverse_inj] at hread
  exact ⟨post, hread.1.symm, rfl⟩

/-- **The reader accepts exactly the encodings**, and it reads what was written. -/
theorem decode_eq_some_iff {bytes : List UInt8} {text : String} :
    decode bytes = some text ↔ bytes = encode text.toList := by
  have hdecode : ∀ cs, decode (encode cs) = some (String.ofList cs) := fun cs => by
    simp [decode, read, readFrom_encode]
  constructor
  · intro h
    rcases hread : readFrom [] none bytes with ⟨out, complete⟩
    cases complete with
    | false => simp [decode, read, hread] at h
    | true =>
        obtain ⟨cs, rfl⟩ := eq_encode_of_readFrom hread
        rw [hdecode, Option.some.injEq] at h
        rw [← h, String.toList_ofList]
  · rintro rfl
    rw [hdecode, String.ofList_toList]

end Utf8

end MockLens
