/-
**UTF-8: bytes read as characters.**

A byte sequence is read one byte at a time.  Between characters any first byte may follow; inside a
character the reader knows how many bytes are owed and which of them are still allowed, so that no
overlong form, no surrogate and nothing above the last code point is accepted.

Main definitions:

* `Utf8.Progress`, `Utf8.first`, `Utf8.next` — the reader's state, and one byte of a character;
* `Utf8.read` — the characters up to the first byte that cannot stand where it does;
* `Utf8.decode` — the text of a byte sequence, if all of it is UTF-8;
* `Utf8.encode` — the bytes of a text.
-/

set_option autoImplicit false

namespace MockLens.Utf8

/-- A character of which some bytes are still to come. -/
structure Progress where
  /-- The number of bytes owed behind the next one. -/
  owed : Nat
  /-- The least and the greatest byte that may come next. -/
  low : Nat
  high : Nat
  /-- The value of the bytes read so far. -/
  value : Nat
  deriving DecidableEq, Repr

/-- What a byte leads to. -/
inductive Step where
  | finished (value : Nat)
  | more (progress : Progress)
  | refused
  deriving DecidableEq, Repr

/-- The first byte of a character. -/
def first (b : Nat) : Step :=
  if b < 0x80 then .finished b
  else if b < 0xC2 then .refused
  else if b < 0xE0 then .more ⟨0, 0x80, 0xBF, b - 0xC0⟩
  else if b < 0xF0 then
    .more ⟨1, if b = 0xE0 then 0xA0 else 0x80, if b = 0xED then 0x9F else 0xBF, b - 0xE0⟩
  else if b < 0xF5 then
    .more ⟨2, if b = 0xF0 then 0x90 else 0x80, if b = 0xF4 then 0x8F else 0xBF, b - 0xF0⟩
  else .refused

/-- A byte inside a character. -/
def next (p : Progress) (b : Nat) : Step :=
  if p.low ≤ b && b ≤ p.high then
    let value := p.value * 64 + (b - 0x80)
    match p.owed with
    | 0 => .finished value
    | owed + 1 => .more ⟨owed, 0x80, 0xBF, value⟩
  else .refused

/-- Reads bytes, the characters read so far standing last first; the flag says whether all bytes
were read. -/
def readFrom (chars : List Char) : Option Progress → List UInt8 → List Char × Bool
  | none, [] => (chars, true)
  | some _, [] => (chars, false)
  | progress, b :: bs =>
    let step :=
      match progress with
      | none => first b.toNat
      | some p => next p b.toNat
    match step with
    | .finished value => readFrom (Char.ofNat value :: chars) none bs
    | .more p => readFrom chars (some p) bs
    | .refused => (chars, false)

/-- The characters up to the first byte that cannot stand where it does, and whether there is no
such byte. -/
def read (bytes : List UInt8) : String × Bool :=
  let result := readFrom [] none bytes
  (String.ofList result.1.reverse, result.2)

/-- The text of a byte sequence, if all of it is UTF-8. -/
def decode (bytes : List UInt8) : Option String :=
  match read bytes with
  | (text, true) => some text
  | (_, false) => none

/-- The bytes of characters. -/
def encode (cs : List Char) : List UInt8 := cs.flatMap String.utf8EncodeChar

end MockLens.Utf8
