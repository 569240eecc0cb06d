/-
**Percent-encoding: characters that may not stand in a URI.**

A byte is written as a percent sign and two hexadecimal digits.  Which characters are written so
depends on the part of the URI; sequences that are there already are kept.

Main definitions:

* `encodedInPath`, `encodedInQuery`, … — the characters encoded in the parts of a URI;
* `percentEncode`, `percentDecode` — a text with characters encoded, and the bytes it stands for.
-/
import MockLens.Text

set_option autoImplicit false

namespace MockLens

namespace Uri

/-- Control characters and all that is not ASCII must be encoded everywhere. -/
def mustEncode (c : Char) : Bool := c.toNat < 0x20 || 0x7F ≤ c.toNat

/-- The characters encoded behind a `#`. -/
def encodedInFragment (c : Char) : Bool :=
  mustEncode c || [' ', '"', '<', '>', '\x60'].contains c

/-- The characters encoded behind a `?`; a quote is one in schemes that have hosts of their own. -/
def encodedInQuery (special : Bool) (c : Char) : Bool :=
  mustEncode c || [' ', '"', '#', '<', '>'].contains c || (special && c == '\'')

/-- The characters encoded in a path that is already divided by slashes. -/
def encodedInPath (c : Char) : Bool :=
  encodedInFragment c || ['#', '?', '\x7b', '\x7d'].contains c

/-- The characters encoded in the name of a file. -/
def encodedInName (c : Char) : Bool := encodedInPath c || ['/', '%', '\\'].contains c

/-- The characters encoded in a user name or password. -/
def encodedInUser (c : Char) : Bool :=
  encodedInPath c || ['/', ':', ';', '=', '@', '[', '\\', ']', '^', '|'].contains c

/-- A byte as a percent sign and two hexadecimal digits, with capital letters. -/
def encodeByte (b : UInt8) : List Char :=
  ['%', (Text.hexDigit (b.toNat / 16)).toUpper, (Text.hexDigit (b.toNat % 16)).toUpper]

/-- Encodes the characters `p` accepts. -/
def percentEncode (p : Char → Bool) (cs : List Char) : List Char :=
  cs.flatMap fun c => if p c then (String.utf8EncodeChar c).flatMap encodeByte else [c]

/-- The bytes a percent-encoded text stands for; a percent sign without two digits behind it stands
for itself. -/
def percentDecode : List Char → List UInt8
  | [] => []
  | c :: cs =>
    if c == '%' then
      match cs with
      | h :: l :: rest =>
        match Text.hexDigit? h, Text.hexDigit? l with
        | some high, some low => UInt8.ofNat (16 * high + low) :: percentDecode rest
        | _, _ => UInt8.ofNat 37 :: percentDecode (h :: l :: rest)
      | rest => UInt8.ofNat 37 :: percentDecode rest
    else String.utf8EncodeChar c ++ percentDecode cs

end Uri

end MockLens
