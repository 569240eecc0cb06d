/-
**Hosts: the machines URIs name.**

A scheme that has hosts of its own names them by numbers, in one of two notations, or by names,
which are kept in lower case and in ASCII.  Any other scheme takes what stands there as it is.

Main definitions:

* `Uri.Error`, `Uri.Error.message` — why a text is no URI;
* `Ipv4.address?`, `Ipv6.pieces?` — the two notations for numbers, with their normal forms
  `Ipv4.text` and `Ipv6.text`;
* `Uri.readHost`, `Uri.readOpaqueHost` — the host of a URI, in its normal form.
-/
import MockLens.Text.Utf8
import MockLens.Uri.Name
import MockLens.Uri.Percent

set_option autoImplicit false

namespace MockLens

/-! ### Errors -/

/-- Why a text is no URI. -/
inductive Uri.Error where
  | noScheme
  | emptyHost
  | badHostName
  | badHostCharacter
  | badIpv4
  | badIpv6
  | badPort
  deriving DecidableEq, Repr

/-- The text of an error. -/
def Uri.Error.message : Uri.Error → String
  | noScheme => "relative URL without a base"
  | emptyHost => "empty host"
  | badHostName => "invalid international domain name"
  | badHostCharacter => "invalid domain character"
  | badIpv4 => "invalid IPv4 address"
  | badIpv6 => "invalid IPv6 address"
  | badPort => "invalid port number"

/-! ### Addresses of 32 bits -/

namespace Ipv4

/-- A number in base sixteen behind `0x`, in base eight behind another zero, and in base ten
otherwise. -/
def number? (cs : List Char) : Option Nat :=
  let (base, digits) :=
    match cs with
    | '0' :: 'x' :: digits => (16, digits)
    | '0' :: 'X' :: digits => (16, digits)
    | '0' :: digit :: digits => (8, digit :: digits)
    | digits => (10, digits)
  if cs.isEmpty || !digits.all (Text.isDigitIn base) then none
  else some (Text.valueIn base digits)

/-- The segments between dots, without an empty one at the end. -/
def segments (cs : List Char) : List (List Char) :=
  let all := Text.splitChars '.' cs
  if all.getLast? == some [] then all.dropLast else all

/-- The last segment is a number, or digits only; then the host must be an address. -/
def endsInNumber (cs : List Char) : Bool :=
  match (segments cs).getLast? with
  | some last => (!last.isEmpty && last.all Char.isDigit) || (number? last).isSome
  | none => false

/-- The value of an address: the last number fills all bytes that the others leave. -/
def address? (cs : List Char) : Option Nat := do
  let parts := segments cs
  if 4 < parts.length then none
  let numbers ← parts.mapM number?
  let last ← numbers.getLast?
  let bytes := numbers.dropLast
  if bytes.any (255 < ·) || Nat.pow 256 (4 - bytes.length) ≤ last then none
  else some (bytes.foldl (256 * · + ·) 0 * Nat.pow 256 (4 - bytes.length) + last)

/-- An address as four numbers. -/
def text (address : Nat) : String :=
  ".".intercalate ([3, 2, 1, 0].map fun (place : Nat) =>
    toString (address / Nat.pow 256 place % 256))

end Ipv4

/-! ### Addresses of 128 bits -/

namespace Ipv6

/-- A number below 256 in decimal digits without zeros in front. -/
def byte? (cs : List Char) : Option Nat :=
  let value := Text.decimalValue cs
  if cs.isEmpty || !cs.all Char.isDigit || (1 < cs.length && cs.head? == some '0') || 255 < value
  then none
  else some value

/-- The two pieces that four decimal numbers at the end stand for. -/
def lastPieces? (cs : List Char) : Option (List Nat) :=
  match (Text.splitChars '.' cs).mapM byte? with
  | some [a, b, c, d] => some [256 * a + b, 256 * c + d]
  | _ => none

/-- Reads pieces, behind those already read, the latest first.  At a double colon stands a piece of
zero; `gap` is the number of pieces up to that one. -/
def piecesBehind? : Nat → Option Nat → List Nat → List Char → Option (List Nat × Option Nat)
  | _, gap, pieces, [] => some (pieces.reverse, gap)
  | 0, _, _, _ :: _ => none
  | fuel + 1, gap, pieces, c :: cs =>
    if pieces.length == 8 then none
    else if c == ':' then
      if gap.isSome then none
      else piecesBehind? fuel (some (pieces.length + 1)) (0 :: pieces) cs
    else
      let digits := ((c :: cs).take 4).takeWhile (Text.isDigitIn 16)
      let value := Text.valueIn 16 digits
      match (c :: cs).drop digits.length with
      | [] => some ((value :: pieces).reverse, gap)
      | '.' :: _ =>
        if 6 < pieces.length then none
        else (lastPieces? (c :: cs)).map fun last => (pieces.reverse ++ last, gap)
      | ':' :: next :: rest => piecesBehind? fuel gap (value :: pieces) (next :: rest)
      | _ => none

/-- The eight pieces of an address; zeros fill the gap. -/
def pieces? (cs : List Char) : Option (List Nat) :=
  let read :=
    match cs with
    | ':' :: ':' :: rest => piecesBehind? cs.length (some 1) [0] rest
    | ':' :: _ => none
    | [] => none
    | cs => piecesBehind? cs.length none [] cs
  match read with
  | some (pieces, some gap) =>
    some (pieces.take gap ++ List.replicate (8 - pieces.length) 0 ++ pieces.drop gap)
  | some (pieces, none) => if pieces.length == 8 then some pieces else none
  | none => none

/-- The number of zeros at the front. -/
def zeros (pieces : List Nat) : Nat := (pieces.takeWhile (· == 0)).length

/-- Where the longest run of at least two zeros starts, the first one of several, and its length. -/
def longestRun (pieces : List Nat) : Option (Nat × Nat) :=
  (List.range pieces.length).foldl
    (fun best start =>
      let length := zeros (pieces.drop start)
      let least := match best with | some (_, n) => n | none => 1
      if least < length then some (start, length) else best)
    none

/-- Pieces in hexadecimal digits between colons; two colons stand for the longest run of zeros. -/
def text (pieces : List Nat) : String :=
  let joined (pieces : List Nat) : String :=
    ":".intercalate (pieces.map fun n => String.ofList (Nat.toDigits 16 n))
  match longestRun pieces with
  | some (start, length) =>
    joined (pieces.take start) ++ "::" ++ joined (pieces.drop (start + length))
  | none => joined pieces

end Ipv6

namespace Uri

/-! ### Reading -/

/-- The characters that cannot be in any host. -/
def forbiddenInHost (c : Char) : Bool :=
  [' ', '\x00', '#', '/', ':', '<', '>', '?', '@', '[', '\\', ']', '^', '|'].contains c

/-- The characters that cannot be in the name of a host. -/
def forbiddenInHostName (c : Char) : Bool := mustEncode c || forbiddenInHost c || c == '%'

/-- An address behind its opening bracket. -/
def readBracketed (cs : List Char) : Except Error String :=
  match cs.getLast?, Ipv6.pieces? cs.dropLast with
  | some ']', some pieces => .ok ("[" ++ Ipv6.text pieces ++ "]")
  | _, _ => .error .badIpv6

/-- The host of a scheme that has hosts of its own. -/
def readHost (cs : List Char) : Except Error String :=
  match cs with
  | '[' :: rest => readBracketed rest
  | cs =>
    match (Utf8.decode (percentDecode cs)).bind fun decoded => asciiName? decoded.toList with
    | none => .error .badHostName
    | some name =>
      if name.any forbiddenInHostName then .error .badHostName
      else if name.isEmpty then .error .emptyHost
      else if Ipv4.endsInNumber name then
        match Ipv4.address? name with
        | some address => .ok (Ipv4.text address)
        | none => .error .badIpv4
      else .ok (String.ofList name)

/-- The host of any other scheme; it may be empty. -/
def readOpaqueHost (cs : List Char) : Except Error String :=
  match cs with
  | '[' :: rest => readBracketed rest
  | cs =>
    if cs.any forbiddenInHost then .error .badHostCharacter
    else .ok (String.ofList (percentEncode mustEncode cs))

end Uri

end MockLens
