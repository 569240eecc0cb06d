/-
**Quoted strings: the value of a string literal.**

A literal in single quotes knows the two escapes for a quote and a backslash.  A literal in double
quotes knows more, among them octal and hexadecimal ones, which stand for single bytes; the bytes
of the whole value need not form a text, and then the literal has no value.

Main definitions:

* `StringUnit` — a character, or a byte written as an escape;
* `unescapeSingle`, `unescapeDouble` — the units between the quotes;
* `Quoted.value` — the value of a literal.
-/
import MockLens.Text
import MockLens.Text.Utf8

set_option autoImplicit false

namespace MockLens.Php

/-- A piece of a string value: a character of the source, or a single byte. -/
inductive StringUnit where
  | char (c : Char)
  | byte (b : UInt8)
  deriving DecidableEq, Repr

namespace StringUnit

/-- The bytes a unit contributes. -/
def bytes : StringUnit → List UInt8
  | char c => String.utf8EncodeChar c
  | byte b => [b]

/-- The text of a list of units, if their bytes form one. -/
def text (units : List StringUnit) : Option String := Utf8.decode (units.flatMap bytes)

end StringUnit

/-! ### Escapes -/

/-- The units of a literal in single quotes. -/
def unescapeSingle : List Char → List StringUnit
  | '\\' :: '\\' :: cs => .char '\\' :: unescapeSingle cs
  | '\\' :: '\'' :: cs => .char '\'' :: unescapeSingle cs
  | c :: cs => .char c :: unescapeSingle cs
  | [] => []

/-- The value of an octal digit. -/
def octalDigit? (c : Char) : Option Nat :=
  if '0' ≤ c ∧ c ≤ '7' then some (c.toNat - '0'.toNat) else none

/-- The value of at most `left` more digits in front of a list, and how many there are. -/
def digitRun (digit? : Char → Option Nat) (base : Nat) : Nat → Nat → Nat → List Char → Nat × Nat
  | 0, value, count, _ => (value, count)
  | _ + 1, value, count, [] => (value, count)
  | left + 1, value, count, c :: cs =>
    match digit? c with
    | some d => digitRun digit? base left (value * base + d) (count + 1) cs
    | none => (value, count)

/-- The units a backslash and the character behind it stand for, and how many characters they take
besides that one.  Before a digit that is not octal the backslash stays and gets a zero. -/
def escape (c : Char) (cs : List Char) : List StringUnit × Nat :=
  match c with
  | 'n' => ([.char '\n'], 0)
  | 't' => ([.char '\t'], 0)
  | 'r' => ([.char '\r'], 0)
  | 'v' => ([.char '\x0b'], 0)
  | 'e' => ([.char '\x1b'], 0)
  | 'f' => ([.char '\x0c'], 0)
  | '0' => ([.char '\x00'], 0)
  | 'x' =>
    match digitRun Text.hexDigit? 16 2 0 0 cs with
    | (_, 0) => ([.char '\\', .char 'x'], 0)
    | (value, count) => ([.byte (UInt8.ofNat value)], count)
  | _ =>
    match octalDigit? c with
    | some first =>
      let (value, count) := digitRun octalDigit? 8 2 first 0 cs
      ([.byte (UInt8.ofNat value)], count)
    | none => (if c.isDigit then [.char '\\', .char '0', .char c] else [.char c], 0)

/-- The units of a literal in double quotes; `skip` characters of an escape are still to be passed
over. -/
def unescapeDouble : Nat → List Char → List StringUnit
  | _, [] => []
  | skip + 1, _ :: cs => unescapeDouble skip cs
  | 0, '\\' :: c :: cs =>
    let (units, taken) := escape c cs
    units ++ unescapeDouble (taken + 1) (c :: cs)
  | 0, c :: cs => .char c :: unescapeDouble 0 cs

/-! ### Literals -/

namespace Quoted

/-- The units of a literal that starts with its opening quote. -/
def units : List Char → List StringUnit
  | '\'' :: cs => unescapeSingle cs.dropLast
  | '"' :: cs => unescapeDouble 0 cs.dropLast
  | _ => []

/-- The value of a literal as written, with or without the letter `b` before its quote; nothing if
its bytes form no text. -/
def value (literal : String) : Option String :=
  StringUnit.text <|
    match literal.toList with
    | 'b' :: cs => units cs
    | 'B' :: cs => units cs
    | cs => units cs

end Quoted

end MockLens.Php
