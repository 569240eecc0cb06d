/-
**Text: ASCII case, splitting at a character, and byte lengths.**

Names in the source language are compared without regard to ASCII case, the textual forms of types
are cut at single separator characters, and every offset is a byte offset into UTF-8.  This module
holds those operations, each on the list of characters of a text.

Main definitions:

* `Text.lower`, `Text.sameFold`, `Text.isBlank` — ASCII lower case, equality up to ASCII case, and
  blank characters;
* `Text.hexDigit?`, `Text.valueIn`, `Text.decimalValue` — the numbers digits stand for;
* `Text.splitChars`, `Text.split` — the segments of a text between separators;
* `Text.cutFirst`, `Text.cutLast` — the two parts around the first or the last separator;
* `Text.byteLength`, `Text.beforeByte`, `Text.fromByte` — byte counts, and the text on either side
  of a byte offset;
* `Text.dropPrefix?`, `Text.findSub` — a known beginning, and the first place a pattern occurs.
-/

set_option autoImplicit false

namespace MockLens

namespace Text

/-! ### ASCII case -/

/-- The text with the letters `A` to `Z` in lower case and every other character kept. -/
def lower (s : String) : String := String.ofList (s.toList.map Char.toLower)

/-- Two texts are equal up to ASCII case. -/
def sameFold (a b : String) : Bool := lower a == lower b

/-- The blank characters of ASCII: space, tab, line feed, carriage return and form feed. -/
def isBlank (c : Char) : Bool :=
  c == ' ' || c == '\t' || c == '\n' || c == '\r' || c == '\x0c'

/-- The value of a hexadecimal digit. -/
def hexDigit? (c : Char) : Option Nat :=
  if '0' ≤ c && c ≤ '9' then some (c.toNat - 48)
  else if 'a' ≤ c && c ≤ 'f' then some (c.toNat - 87)
  else if 'A' ≤ c && c ≤ 'F' then some (c.toNat - 55)
  else none

/-- The hexadecimal digit of a value, as a small letter from ten on. -/
def hexDigit (n : Nat) : Char := if n < 10 then Char.ofNat (48 + n) else Char.ofNat (87 + n)

/-- A digit in a base up to sixteen. -/
def isDigitIn (base : Nat) (c : Char) : Bool := (hexDigit? c).any (· < base)

/-- The number digits stand for in a base up to sixteen. -/
def valueIn (base : Nat) (cs : List Char) : Nat :=
  cs.foldl (fun n c => base * n + (hexDigit? c).getD 0) 0

/-- The number decimal digits stand for. -/
def decimalValue (cs : List Char) : Nat := valueIn 10 cs

/-! ### Separators -/

/-- The segments between the characters `p` accepts; there is always one more segment than there
are separators. -/
def splitCharsBy (p : Char → Bool) : List Char → List (List Char)
  | [] => [[]]
  | x :: xs =>
    if p x then [] :: splitCharsBy p xs
    else
      match splitCharsBy p xs with
      | [] => [[x]]
      | seg :: segs => (x :: seg) :: segs

/-- The segments between occurrences of `c`. -/
def splitChars (c : Char) (cs : List Char) : List (List Char) := splitCharsBy (· == c) cs

/-- The segments of a text between occurrences of `c`. -/
def split (c : Char) (s : String) : List String := (splitChars c s.toList).map String.ofList

/-- The non-empty segments of a text between occurrences of `c`. -/
def splitNonEmpty (c : Char) (s : String) : List String :=
  (split c s).filter (fun seg => seg != "")

/-- The parts before and after the first `c`, or nothing without a `c`. -/
def cutFirstChars (c : Char) : List Char → Option (List Char × List Char)
  | [] => none
  | x :: xs =>
    if x == c then some ([], xs)
    else (cutFirstChars c xs).map fun parts => (x :: parts.1, parts.2)

/-- The parts before and after the last `c`, or nothing without a `c`. -/
def cutLastChars (c : Char) : List Char → Option (List Char × List Char)
  | [] => none
  | x :: xs =>
    match cutLastChars c xs with
    | some parts => some (x :: parts.1, parts.2)
    | none => if x == c then some ([], xs) else none

/-- `cutFirstChars` on texts. -/
def cutFirst (c : Char) (s : String) : Option (String × String) :=
  (cutFirstChars c s.toList).map fun parts => (String.ofList parts.1, String.ofList parts.2)

/-- `cutLastChars` on texts. -/
def cutLast (c : Char) (s : String) : Option (String × String) :=
  (cutLastChars c s.toList).map fun parts => (String.ofList parts.1, String.ofList parts.2)

/-- The part after the last `c`, or the whole text without a `c`. -/
def afterLast (c : Char) (s : String) : String := ((cutLast c s).map Prod.snd).getD s

/-! ### Beginnings, ends and occurrences -/

/-- What follows `pre` in a list that starts with it. -/
def dropPrefixChars? : List Char → List Char → Option (List Char)
  | [], cs => some cs
  | _ :: _, [] => none
  | p :: ps, c :: cs => if p == c then dropPrefixChars? ps cs else none

/-- What follows `pre` in a text that starts with it. -/
def dropPrefix? (pre s : String) : Option String :=
  (dropPrefixChars? pre.toList s.toList).map String.ofList

/-- The text starts with `pre`. -/
def startsWith (pre s : String) : Bool := (dropPrefixChars? pre.toList s.toList).isSome

/-- The text contains the character `c`. -/
def hasChar (c : Char) (s : String) : Bool := s.toList.contains c

/-- The part of a list from the first place where `pat` occurs. -/
def findSubChars (pat : List Char) : List Char → Option (List Char)
  | [] => if pat.isEmpty then some [] else none
  | c :: cs =>
    if (dropPrefixChars? pat (c :: cs)).isSome then some (c :: cs) else findSubChars pat cs

/-- The part of a text from the first place where `pat` occurs. -/
def findSub (pat s : String) : Option String :=
  (findSubChars pat.toList s.toList).map String.ofList

/-- The text contains `pat`. -/
def hasSub (pat s : String) : Bool := (findSubChars pat.toList s.toList).isSome

/-- The text without the characters satisfying `p` at its beginning. -/
def trimStart (p : Char → Bool) (s : String) : String := String.ofList (s.toList.dropWhile p)

/-- The list without the elements satisfying `p` at its end. -/
def trimEndChars (p : Char → Bool) (cs : List Char) : List Char :=
  (cs.reverse.dropWhile p).reverse

/-- The text without the characters satisfying `p` at its end. -/
def trimEnd (p : Char → Bool) (s : String) : String := String.ofList (trimEndChars p s.toList)

/-- The text without the characters satisfying `p` at either end. -/
def trimBoth (p : Char → Bool) (s : String) : String :=
  String.ofList (trimEndChars p (s.toList.dropWhile p))

/-! ### Byte lengths -/

/-- The number of bytes the characters take in UTF-8. -/
def byteLength (cs : List Char) : Nat := cs.foldl (fun n c => n + c.utf8Size) 0

/-- Moves characters off the front of a list, onto the front of `before`, as long as they end at or
before byte `n`. -/
def cutBytes (before : List Char) : Nat → List Char → List Char × List Char
  | _, [] => (before, [])
  | n, c :: cs =>
    if c.utf8Size ≤ n then cutBytes (c :: before) (n - c.utf8Size) cs else (before, c :: cs)

/-- The characters before byte offset `n`, the nearest first. -/
def beforeByte (n : Nat) (cs : List Char) : List Char := (cutBytes [] n cs).1

/-- The characters from byte offset `n` on. -/
def fromByte (n : Nat) (cs : List Char) : List Char := (cutBytes [] n cs).2

end Text

end MockLens
