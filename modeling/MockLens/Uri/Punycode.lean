/-
**Punycode: texts in the letters and digits of ASCII.**

The characters of ASCII are written first.  The others follow in the order of their code points;
each is given by the number of places and points between it and the one before, in base 36 with
places of different weights.

Main definitions:

* `Punycode.encode` — a text in ASCII;
* `Punycode.decode?` — the text that is written so.
-/
import MockLens.Text

set_option autoImplicit false

namespace MockLens

namespace Punycode

/-! ### Digits -/

/-- A digit of a number in base 36: letters come before digits. -/
def digit (n : Nat) : Char := if n < 26 then Char.ofNat (97 + n) else Char.ofNat (22 + n)

/-- The value of a digit. -/
def value? (c : Char) : Option Nat :=
  if c.isDigit then some (c.toNat - 22)
  else if c.isLower then some (c.toNat - 97)
  else none

/-- The least digit that goes on at a place, which depends on the bias. -/
def threshold (place bias : Nat) : Nat := min 26 (max 1 (place - bias))

/-- The bias of a number: 36 for each time that it can be divided by 35, and a part of 36 for what
is left. -/
def biasOf (n : Nat) : Nat := if 455 < n then biasOf (n / 35) + 36 else 36 * n / (n + 38)

/-- The bias after a difference was written: the larger the difference, the larger the bias. -/
def adapted (difference points : Nat) (isFirst : Bool) : Nat :=
  let scaled := if isFirst then difference / 700 else difference / 2
  biasOf (scaled + scaled / points)

/-! ### Writing -/

/-- A difference as digits, the lowest first, each place with a threshold of its own. -/
def digitsOf : Nat → Nat → Nat → Nat → List Char
  | 0, _, _, _ => []
  | fuel + 1, bias, place, n =>
    let t := threshold place bias
    if n < t then [digit n]
    else digit (t + (n - t) % (36 - t)) :: digitsOf fuel bias (place + 36) ((n - t) / (36 - t))

/-- The state of writing: the digits so far, the difference since the last point that was written,
the bias, and the number of points written. -/
structure Writer where
  written : List Char
  difference : Nat
  bias : Nat
  points : Nat

/-- Meets a character while the points with a given value are written. -/
def Writer.meet (ascii point : Nat) (s : Writer) (c : Char) : Writer :=
  if c.toNat < point then { s with difference := s.difference + 1 }
  else if c.toNat == point then
    { written := s.written ++ digitsOf (s.difference + 1) s.bias 36 s.difference
      difference := 0
      bias := adapted s.difference (s.points + 1) (s.points == ascii)
      points := s.points + 1 }
  else s

/-- Writes the points other than ASCII, given in increasing order. -/
def Writer.write (text : List Char) (ascii : Nat) : List Nat → Nat → Writer → Writer
  | [], _, s => s
  | point :: more, last, s =>
    let s := { s with difference := s.difference + (point - last) * (s.points + 1) }
    let s := text.foldl (Writer.meet ascii point) s
    write text ascii more (point + 1) { s with difference := s.difference + 1 }

/-- The ASCII characters of a text, a dash if there are any, and the places of the others. -/
def encode (text : List Char) : List Char :=
  let ascii := text.filter fun c => c.toNat < 128
  let points := ((text.filter fun c => 128 ≤ c.toNat).map Char.toNat).mergeSort.eraseDups
  let state := Writer.write text ascii.length points 128 ⟨[], 0, 72, ascii.length⟩
  ascii ++ (if ascii.isEmpty then [] else ['-']) ++ state.written

/-! ### Reading -/

/-- Reads a difference behind digits that make up `total`, from the place with the given weight, and
answers with the characters behind it. -/
def difference? (bias : Nat) : Nat → Nat → Nat → List Char → Option (Nat × List Char)
  | _, _, _, [] => none
  | place, weight, total, c :: cs =>
    match value? c with
    | none => none
    | some d =>
      let t := threshold place bias
      if d < t then some (total + d * weight, cs)
      else difference? bias (place + 36) (weight * (36 - t)) (total + d * weight) cs

/-- Reads differences and puts their points into a text; the next one has at least the value
`point`, and the place `index` or one behind it if it has this value.  Every round of `fuel` reads
one. -/
def insertFrom? : Nat → List Char → Nat → Nat → Nat → List Char → Option (List Char)
  | _, text, _, _, _, [] => some text
  | 0, _, _, _, _, _ :: _ => none
  | fuel + 1, text, point, index, bias, c :: cs =>
    match difference? bias 36 1 0 (c :: cs) with
    | none => none
    | some (difference, rest) =>
      let points := text.length + 1
      let point := point + (index + difference) / points
      let index := (index + difference) % points
      if point.isValidChar then
        insertFrom? fuel (text.insertIdx index (Char.ofNat point)) point (index + 1)
          (adapted difference points (text.all fun c => c.toNat < 128)) rest
      else none

/-- The text that is written so. -/
def decode? (cs : List Char) : Option (List Char) :=
  match Text.cutLastChars '-' cs with
  | some (c :: ascii, digits) => insertFrom? digits.length (c :: ascii) 128 0 72 digits
  | _ => insertFrom? cs.length [] 128 0 72 cs

end Punycode

end MockLens
