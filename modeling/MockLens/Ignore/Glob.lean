/-
**Globs: patterns for paths.**

A glob is matched against the bytes of a path whose names are joined by slashes.  A star and a
question mark never match a slash; a double star between slashes matches any number of directories.

Main definitions:

* `Glob.Piece`, `Glob` — the pieces of a pattern;
* `Glob.parse?` — reading a pattern;
* `Glob.matchesPath` — a path matches a pattern.
-/
import MockLens.Text.Utf8

set_option autoImplicit false

namespace MockLens

namespace Glob

/-- A piece of a pattern. -/
inductive Piece where
  /-- The bytes of a character. -/
  | literal (c : Char)
  /-- Any byte but a slash. -/
  | anyByte
  /-- Any bytes but slashes. -/
  | star
  /-- Any directories at the beginning. -/
  | directoriesFirst
  /-- A slash, or directories between two slashes. -/
  | directoriesBetween
  /-- A slash and anything behind it. -/
  | directoriesLast
  /-- A byte of one of the ranges, or of none of them. -/
  | oneOf (negated : Bool) (ranges : List (Char × Char))
  /-- One of several patterns, of which only those count in which something stands. -/
  | choice (alternatives : List (List Piece))
  deriving Repr

end Glob

/-- A pattern. -/
abbrev Glob := List Glob.Piece

namespace Glob

/-! ### Reading -/

/-- Extends the last range of a class to a character, if that is not smaller than its start. -/
def extendRange (ranges : List (Char × Char)) (c : Char) : Option (List (Char × Char)) :=
  match ranges with
  | (low, _) :: rest => if c < low then none else some ((low, c) :: rest)
  | [] => none

/-- The outcome of reading a class in brackets. -/
inductive ClassResult where
  | closed (ranges : List (Char × Char)) (rest : List Char)
  | unclosed
  | invalid

/-- Reads a class behind its opening bracket, the ranges so far standing last first.  A bracket that
closes stands for itself in the first place, and so does a dash in the first or last. -/
def readClass (isFirst inRange : Bool) (ranges : List (Char × Char)) : List Char → ClassResult
  | [] => .unclosed
  | c :: cs =>
    if c == ']' && !isFirst then .closed (if inRange then ('-', '-') :: ranges else ranges) cs
    else if c == '-' && !isFirst && !inRange then readClass false true ranges cs
    else if inRange then
      match extendRange ranges c with
      | some ranges => readClass false false ranges cs
      | none => .invalid
    else readClass false false ((c, c) :: ranges) cs

/-- The state of reading: the pieces of each open branch, the last first, and for each open brace
how many branches were open before it. -/
structure Reader where
  /-- The pieces of the innermost branch. -/
  pieces : List Piece := []
  /-- The branches outside, the innermost first, each with the finished alternatives of the braces
  opened in it. -/
  outer : List (List Piece × List (List Piece)) := []
  /-- The character before. -/
  before : Option Char := none
  /-- A bracket without an end was seen; from there on brackets stand for themselves. -/
  sawUnclosed : Bool := false

namespace Reader

/-- Adds a piece. -/
def push (r : Reader) (p : Piece) : Reader := { r with pieces := p :: r.pieces }

/-- Reads a double star; `rest` stands behind it.  The answer tells whether the slash behind it
belongs to it. -/
def doubleStar (r : Reader) (rest : List Char) : Reader × Bool :=
  let plain : Reader × Bool := ((r.push .star).push .star, false)
  let inBraces := !r.outer.isEmpty
  let opensBranch := inBraces && (r.before == some ',' || r.before == some '\x7b')
  match r.pieces with
  | [] =>
    match rest with
    | [] => (r.push .directoriesFirst, false)
    | c :: _ => if c == '/' then (r.push .directoriesFirst, true) else plain
  | last :: earlier =>
    if r.before != some '/' && !opensBranch then plain
    else
      let joined (isLast takesSlash : Bool) : Reader × Bool :=
        let piece :=
          match last with
          | .directoriesFirst => .directoriesFirst
          | .directoriesLast => .directoriesLast
          | _ => if isLast then .directoriesLast else .directoriesBetween
        ({ r with pieces := piece :: earlier }, takesSlash)
      match rest with
      | [] => joined true false
      | c :: _ =>
        if (c == ',' || c == '\x7d') && inBraces then joined true false
        else if c == '/' then joined false true
        else plain

/-- Opens a brace. -/
def openBrace (r : Reader) : Reader := { r with pieces := [], outer := (r.pieces, []) :: r.outer }

/-- Reads a comma, which divides alternatives inside braces. -/
def comma (r : Reader) : Reader :=
  match r.outer with
  | [] => r.push (.literal ',')
  | (pieces, done) :: outer =>
    { r with pieces := [], outer := (pieces, done ++ [r.pieces.reverse]) :: outer }

/-- Closes a brace. -/
def closeBrace (r : Reader) : Option Reader :=
  match r.outer with
  | [] => none
  | (pieces, done) :: outer =>
    some { r with pieces := .choice (done ++ [r.pieces.reverse]) :: pieces, outer := outer }

end Reader

/-- Reads a pattern; every round of `fuel` reads at least a character. -/
def readFrom : Nat → Reader → List Char → Option Reader
  | 0, r, _ => some r
  | _, r, [] => some r
  | fuel + 1, r, c :: cs =>
    let next := { r with before := some c }
    if c == '?' then readFrom fuel (next.push .anyByte) cs
    else if c == '*' then
      match cs with
      | '*' :: rest =>
        let (read, takesSlash) := r.doubleStar rest
        if takesSlash then readFrom fuel { read with before := some '/' } (rest.drop 1)
        else readFrom fuel { read with before := some '*' } rest
      | rest => readFrom fuel (next.push .star) rest
    else if c == '[' && !r.sawUnclosed then
      let (negated, body) :=
        match cs with
        | '!' :: rest => (true, rest)
        | '^' :: rest => (true, rest)
        | rest => (false, rest)
      match readClass true false [] body with
      | .closed ranges rest =>
        readFrom fuel { r.push (.oneOf negated ranges) with before := some ']' } rest
      | .unclosed => readFrom fuel { next.push (.literal '[') with sawUnclosed := true } cs
      | .invalid => none
    else if c == '\x7b' then readFrom fuel next.openBrace cs
    else if c == '\x7d' then
      match next.closeBrace with
      | some r => readFrom fuel r cs
      | none => none
    else if c == ',' then readFrom fuel next.comma cs
    else if c == '\\' then
      match cs with
      | [] => none
      | e :: rest => readFrom fuel { r.push (.literal e) with before := some e } rest
    else readFrom fuel (next.push (.literal c)) cs

/-- Reads a pattern; all its braces must be closed. -/
def parse? (pattern : List Char) : Option Glob :=
  match readFrom pattern.length {} pattern with
  | some r => if r.outer.isEmpty then some r.pieces.reverse else none
  | none => none

/-! ### Matching -/

/-- The byte of a slash. -/
def slash : UInt8 := 47

/-- All lists that remain when elements up to some place are dropped, the list itself included. -/
def suffixes : List UInt8 → List (List UInt8)
  | [] => [[]]
  | b :: bs => (b :: bs) :: suffixes bs

/-- The lists that remain behind each slash. -/
def behindSlashes : List UInt8 → List (List UInt8)
  | [] => []
  | b :: bs => if b == slash then bs :: behindSlashes bs else behindSlashes bs

/-- The lists that remain when bytes other than slashes are dropped. -/
def behindName : List UInt8 → List (List UInt8)
  | [] => [[]]
  | b :: bs => (b :: bs) :: if b == slash then [] else behindName bs

/-- The list behind given bytes. -/
def behindBytes? : List UInt8 → List UInt8 → Option (List UInt8)
  | [], bs => some bs
  | _ :: _, [] => none
  | p :: ps, b :: bs => if p == b then behindBytes? ps bs else none

/-- The ranges of bytes a range of characters stands for: its ends are written as their bytes, with
a dash between the two that meet. -/
def byteRanges (range : Char × Char) : List (UInt8 × UInt8) :=
  let low := String.utf8EncodeChar range.1
  let high := String.utf8EncodeChar range.2
  if range.1 == range.2 then low.map fun b => (b, b)
  else
    match low.getLast?, high with
    | some l, h :: rest => (low.dropLast ++ rest).map (fun b => (b, b)) ++ [(l, h)]
    | _, _ => []

/-- A byte is in a class. -/
def inClass (negated : Bool) (ranges : List (Char × Char)) (b : UInt8) : Bool :=
  (ranges.any fun r => (byteRanges r).any fun s => s.1 ≤ b && b ≤ s.2) != negated

/-- The different ones of several remaining lists, all of them ends of one list. -/
def distinctRests (rests : List (List UInt8)) : List (List UInt8) :=
  rests.eraseDupsBy fun a b => a.length == b.length

mutual

/-- Nothing stands in a piece. -/
def Piece.isVoid : Piece → Bool
  | .choice alternatives => allVoid alternatives
  | _ => false

/-- Nothing stands in any of several patterns. -/
def allVoid : List (List Piece) → Bool
  | [] => true
  | pieces :: others => areVoid pieces && allVoid others

/-- Nothing stands in any of several pieces. -/
def areVoid : List Piece → Bool
  | [] => true
  | p :: ps => p.isVoid && areVoid ps

end

mutual

/-- What may remain of a path behind a match of a piece. -/
def Piece.rests : Piece → List UInt8 → List (List UInt8)
  | .literal c, bs => (behindBytes? (String.utf8EncodeChar c) bs).toList
  | .anyByte, b :: bs => if b == slash then [] else [bs]
  | .anyByte, [] => []
  | .star, bs => behindName bs
  | .directoriesFirst, bs => bs :: behindSlashes bs
  | .directoriesBetween, b :: bs => if b == slash then bs :: behindSlashes bs else []
  | .directoriesBetween, [] => []
  | .directoriesLast, b :: bs => if b == slash then suffixes bs else []
  | .directoriesLast, [] => []
  | .oneOf negated ranges, b :: bs => if inClass negated ranges b then [bs] else []
  | .oneOf _ _, [] => []
  | .choice alternatives, bs =>
    if allVoid alternatives then [bs] else choiceRests alternatives bs

/-- What may remain behind a match of one of several patterns; those without anything in them match
nothing. -/
def choiceRests : List (List Piece) → List UInt8 → List (List UInt8)
  | [], _ => []
  | pieces :: others, bs =>
    (if areVoid pieces then [] else seqRests pieces [bs]) ++ choiceRests others bs

/-- What may remain behind a match of pieces in a row, from each of several lists. -/
def seqRests : List Piece → List (List UInt8) → List (List UInt8)
  | [], rests => rests
  | p :: ps, rests => seqRests ps (distinctRests (rests.flatMap fun bs => p.rests bs))

end

/-- A path matches a pattern as a whole. -/
def matchesPath (g : Glob) (path : List UInt8) : Bool :=
  match g with
  | [.directoriesFirst] => true
  | g => (seqRests g [path]).any List.isEmpty

end Glob

end MockLens
