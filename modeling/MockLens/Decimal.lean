/-
**Decimals: the shortest text of a floating-point number.**

A decimal number in a file is read as the nearest binary number with 53 significant bits, ties going
to the even one, and shown with the fewest digits that read back as that binary number.  Everything
here is exact arithmetic on natural numbers.

Main definitions:

* `Decimal`, `Binary` — numbers `digits * 10 ^ exponent` and `mantissa * 2 ^ exponent`;
* `Decimal.toBinary?` — the nearest binary number, unless it is too large;
* `Binary.shortest` — the decimal number with the fewest digits that reads back;
* `Decimal.text`, `Decimal.scientific` — a decimal number without and with an exponent.
-/

set_option autoImplicit false

namespace MockLens

/-- The number `digits * 10 ^ exponent`. -/
structure Decimal where
  digits : Nat
  exponent : Int
  deriving DecidableEq, Repr

/-- The number `mantissa * 2 ^ exponent`. -/
structure Binary where
  mantissa : Nat
  exponent : Int
  deriving DecidableEq, Repr

/-- The quotient nearest to `num / den`, the even one of two. -/
def roundHalfEven (num den : Nat) : Nat :=
  let q := num / den
  let r := num % den
  if 2 * r < den then q
  else if den < 2 * r then q + 1
  else q + q % 2

/-- A power as a fraction: numerator and denominator of `base ^ exponent`. -/
def powerFraction (base : Nat) (exponent : Int) : Nat × Nat :=
  match exponent with
  | .ofNat e => (Nat.pow base e, 1)
  | .negSucc e => (1, Nat.pow base (e + 1))

namespace Decimal

/-- The numerator and the denominator of a decimal number. -/
def fraction (d : Decimal) : Nat × Nat :=
  let p := powerFraction 10 d.exponent
  (d.digits * p.1, p.2)

/-- The number of decimal digits of a number other than zero. -/
def size (n : Nat) : Nat := (toString n).length

/-- The least exponent of a binary number. -/
def leastExponent : Int := -1074

/-- The mantissa of a binary number has at most 53 bits. -/
def mantissaBound : Nat := 9007199254740992

/-- The binary number nearest to a decimal one; nothing when it has no more than the largest
exponent, and zero when it is less than half of the smallest. -/
def toBinary? (d : Decimal) : Option Binary :=
  let magnitude := d.exponent + size d.digits
  if d.digits = 0 || magnitude < -330 then some ⟨0, leastExponent⟩
  else if 330 < magnitude then none
  else
    let (num, den) := d.fraction
    let guess : Int := (Nat.log2 num : Int) - (Nat.log2 den : Int) - 53
    let scaled (exponent : Int) : Nat :=
      let p := powerFraction 2 exponent
      roundHalfEven (num * p.2) (den * p.1)
    let fits (exponent : Int) : Bool := scaled exponent < mantissaBound
    let exponent := if fits guess then guess else if fits (guess + 1) then guess + 1 else guess + 2
    let exponent := max exponent leastExponent
    if 971 < exponent then none else some ⟨scaled exponent, exponent⟩

/-- A number without zeros at its end, which the exponent takes over; `fuel` bounds their number. -/
def trim : Nat → Decimal → Decimal
  | 0, d => d
  | fuel + 1, d =>
    if d.digits ≠ 0 && d.digits % 10 = 0 then trim fuel ⟨d.digits / 10, d.exponent + 1⟩ else d

/-- A decimal number with a point and at least one digit on either side of it. -/
def text (d : Decimal) : String :=
  if d.digits = 0 then "0.0"
  else
    let digits := (toString d.digits).toList
    match d.exponent with
    | .ofNat e => String.ofList (digits ++ List.replicate e '0') ++ ".0"
    | .negSucc e =>
      let places := e + 1
      let padded := List.replicate (places + 1 - digits.length) '0' ++ digits
      let whole := padded.length - places
      String.ofList (padded.take whole) ++ "." ++ String.ofList (padded.drop whole)

/-- A decimal number with one digit before its point and an exponent, which has a sign and at least
two digits. -/
def scientific (d : Decimal) : String :=
  let digits := (toString d.digits).toList
  let fraction := digits.drop 1
  let mantissa := digits.take 1 ++ if fraction.isEmpty then [] else '.' :: fraction
  let exponent : Int := d.exponent + fraction.length
  let places := (toString exponent.natAbs).toList
  String.ofList (mantissa ++ 'e' :: (if exponent < 0 then '-' else '+') ::
    List.replicate (2 - places.length) '0' ++ places)

end Decimal

namespace Binary

/-- A decimal number reads back as a binary one. -/
def readsBack (b : Binary) (d : Decimal) : Bool := d.toBinary? == some b

/-- The nearer of the two neighbours of a binary number on the decimal grid with the given exponent
that read back, if one does. -/
def onGrid (b : Binary) (exponent : Int) : Option Decimal :=
  let p := powerFraction 2 b.exponent
  let g := powerFraction 10 exponent
  let num := b.mantissa * p.1 * g.2
  let den := p.2 * g.1
  let below : Decimal := ⟨num / den, exponent⟩
  let above : Decimal := ⟨num / den + 1, exponent⟩
  let nearest := if 2 * (num % den) ≤ den then [below, above] else [above, below]
  nearest.find? fun d => d.digits != 0 && b.readsBack d

/-- The exponents of the grids from the coarsest one on, each ten times as fine as the last. -/
def grids (b : Binary) : List Int :=
  let p := powerFraction 2 b.exponent
  let value := b.mantissa * p.1
  let top : Int := (Decimal.size value : Int) - (Decimal.size p.2 : Int) + 1
  (List.range 22).map fun (n : Nat) => top - (n : Int)

/-- The decimal number with the fewest digits that reads back as a binary number. -/
def shortest (b : Binary) : Decimal :=
  if b.mantissa = 0 then ⟨0, 0⟩
  else ((b.grids.findSome? b.onGrid).getD ⟨0, 0⟩).trim 400

end Binary

end MockLens
