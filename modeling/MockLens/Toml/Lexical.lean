/-
**The words of TOML: strings, numbers and dates.**

Every reader here takes the characters of the document from the place reached and answers with what
it read and the characters behind it, or with nothing when the document is malformed.

Main definitions:

* `Toml.string?` — strings in double or single quotes, on one line or several;
* `Toml.scalar?` — the value of a word;
* `Toml.word?` — the word at the place reached.
-/
import MockLens.Text
import MockLens.Toml

set_option autoImplicit false

namespace MockLens.Toml

/-! ### Characters -/

/-- A tab, or a character that is no control character: what may stand in strings and comments. -/
def isPlain (c : Char) : Bool := c == '\t' || (0x20 ≤ c.toNat && c.toNat != 0x7F)

/-- A space or a tab. -/
def isSpace (c : Char) : Bool := c == ' ' || c == '\t'

/-- The characters behind a line end. -/
def newline? : List Char → Option (List Char)
  | '\n' :: cs => some cs
  | '\r' :: '\n' :: cs => some cs
  | _ => none

/-- A carriage return right before a line feed is a part of the line end. -/
def isReturn (c : Char) (after : List Char) : Bool := c == '\r' && after.head? == some '\n'

/-! ### Strings -/

/-- What a backslash in a string leads to. -/
inductive Escape where
  | char (c : Char)
  /-- The number of hexadecimal digits that follow. -/
  | code (digits : Nat)

/-- The escape a character behind a backslash begins. -/
def escape? : Char → Option Escape
  | 'b' => some (.char '\x08')
  | 't' => some (.char '\t')
  | 'n' => some (.char '\n')
  | 'f' => some (.char '\x0c')
  | 'r' => some (.char '\r')
  | 'e' => some (.char '\x1b')
  | '"' => some (.char '"')
  | '\\' => some (.char '\\')
  | 'x' => some (.code 2)
  | 'u' => some (.code 4)
  | 'U' => some (.code 8)
  | _ => none

/-- The character with a code, if there is one. -/
def charOf? (code : Nat) : Option Char :=
  if code < 0xD800 || (0xE000 ≤ code && code < 0x110000) then some (Char.ofNat code) else none

/-- Where in a string the reading is. -/
inductive Place where
  | inside
  | escape
  /-- Inside a code: the digits still owed behind the next one, and the value of those read. -/
  | code (owed value : Nat)
  /-- Behind a backslash and blanks that must end in a line end. -/
  | lineEnd
  /-- Behind a backslash and a line end: blanks and line ends do not count. -/
  | blank

/-- Reads a string in double quotes on one line; `read` are its characters so far, the last
first. -/
def basicLine? (read : List Char) : Place → List Char → Option (String × List Char)
  | _, [] => none
  | .escape, c :: cs =>
    match escape? c with
    | some (.char e) => basicLine? (e :: read) .inside cs
    | some (.code (n + 1)) => basicLine? read (.code n 0) cs
    | _ => none
  | .code owed value, c :: cs =>
    match Text.hexDigit? c, owed with
    | some d, 0 =>
      match charOf? (16 * value + d) with
      | some e => basicLine? (e :: read) .inside cs
      | none => none
    | some d, owed + 1 => basicLine? read (.code owed (16 * value + d)) cs
    | none, _ => none
  | _, c :: cs =>
    if c == '"' then some (String.ofList read.reverse, cs)
    else if c == '\\' then basicLine? read .escape cs
    else if isPlain c then basicLine? (c :: read) .inside cs
    else none

/-- Reads the quotes that close a string over several lines: three of them, and up to two before
these that belong to the string. -/
def closing? (quote : Char) (read cs : List Char) : Option (String × List Char) :=
  let quotes := min 5 (cs.takeWhile (· == quote)).length
  if quotes < 3 then none
  else
    some (String.ofList (List.replicate (quotes - 3) quote ++ read).reverse, cs.drop quotes)

/-- Reads a string in three double quotes. -/
def basicLines? (read : List Char) : Place → List Char → Option (String × List Char)
  | _, [] => none
  | .escape, c :: cs =>
    if isSpace c || isReturn c cs then basicLines? read .lineEnd cs
    else if c == '\n' then basicLines? read .blank cs
    else
      match escape? c with
      | some (.char e) => basicLines? (e :: read) .inside cs
      | some (.code (n + 1)) => basicLines? read (.code n 0) cs
      | _ => none
  | .lineEnd, c :: cs =>
    if isSpace c || isReturn c cs then basicLines? read .lineEnd cs
    else if c == '\n' then basicLines? read .blank cs
    else none
  | .code owed value, c :: cs =>
    match Text.hexDigit? c, owed with
    | some d, 0 =>
      match charOf? (16 * value + d) with
      | some e => basicLines? (e :: read) .inside cs
      | none => none
    | some d, owed + 1 => basicLines? read (.code owed (16 * value + d)) cs
    | none, _ => none
  | place, c :: cs =>
    let blank :=
      match place with
      | .blank => isSpace c || c == '\n' || isReturn c cs
      | _ => false
    if blank then basicLines? read .blank cs
    else if c == '"' then
      match closing? '"' read (c :: cs) with
      | some closed => some closed
      | none => basicLines? (c :: read) .inside cs
    else if c == '\\' then basicLines? read .escape cs
    else if c == '\n' || isPlain c then basicLines? (c :: read) .inside cs
    else if isReturn c cs then basicLines? read .inside cs
    else none

/-- Reads a string in single quotes on one line. -/
def literalLine? (read : List Char) : List Char → Option (String × List Char)
  | [] => none
  | c :: cs =>
    if c == '\'' then some (String.ofList read.reverse, cs)
    else if isPlain c then literalLine? (c :: read) cs
    else none

/-- Reads a string in three single quotes. -/
def literalLines? (read : List Char) : List Char → Option (String × List Char)
  | [] => none
  | c :: cs =>
    if c == '\'' then
      match closing? '\'' read (c :: cs) with
      | some closed => some closed
      | none => literalLines? (c :: read) cs
    else if c == '\n' || isPlain c then literalLines? (c :: read) cs
    else if isReturn c cs then literalLines? read cs
    else none

/-- A line end right behind the opening quotes does not count. -/
def dropNewline (cs : List Char) : List Char := (newline? cs).getD cs

/-- Reads a string on one line, behind its opening quote. -/
def lineBehind? (quote : Char) (cs : List Char) : Option (String × List Char) :=
  if quote == '"' then basicLine? [] .inside cs else literalLine? [] cs

/-- Reads a string over several lines, behind its opening quotes. -/
def linesBehind? (quote : Char) (cs : List Char) : Option (String × List Char) :=
  if quote == '"' then basicLines? [] .inside (dropNewline cs)
  else literalLines? [] (dropNewline cs)

/-- Reads a string behind its opening quote; two further quotes open one over several lines. -/
def string? (quote : Char) (cs : List Char) : Option (String × List Char) :=
  match cs with
  | a :: b :: rest =>
    if a == quote && b == quote then linesBehind? quote rest else lineBehind? quote cs
  | cs => lineBehind? quote cs

/-! ### Numbers -/

/-- The characters of a number without its underscores.  An underscore stands behind a digit or
behind a single first character, which may be a sign, and before a digit. -/
def ungrouped? (isDigit : Char → Bool) (cs : List Char) : Option (List Char) :=
  let groups := Text.splitChars '_' cs
  let startsWell (group : List Char) : Bool := group.head?.any isDigit
  let endsWell (group : List Char) : Bool :=
    group.length == 1 || group.getLast?.any isDigit
  if groups.tail.all startsWell && groups.dropLast.all endsWell then some groups.flatten else none

/-- The sign in front of a number, and the rest. -/
def cutSign : List Char → Bool × List Char
  | '-' :: cs => (true, cs)
  | '+' :: cs => (false, cs)
  | cs => (false, cs)

/-- The integer that digits stand for.  Without any, with one that the base lacks, or with more than
128 bits for it and its sign, there is none. -/
def ofDigits (negative : Bool) (base : Nat) (digits : List Char) : Toml :=
  let n := if negative then -(Text.valueIn base digits : Int) else Text.valueIn base digits
  if digits.isEmpty || !digits.all (Text.isDigitIn base) then .unreadable
  else if -(Nat.pow 2 127 : Int) ≤ n && n < Nat.pow 2 128 then .integer n
  else .unreadable

/-- An integer in another base, behind the mark of the base. -/
def based? (base : Nat) (cs : List Char) : Option Toml :=
  if cs.all fun c => Text.isDigitIn base c || c == '_' then
    (ungrouped? (Text.isDigitIn 16) cs).map (ofDigits false base)
  else none

/-- A decimal integer.  Behind its first underscore only the characters next to underscores have to
be digits, and of any base; whether the others are shows when the integer is read. -/
def decimalInteger? (cs : List Char) : Option Toml :=
  let (negative, body) := cutSign cs
  match body, body.dropWhile Char.isDigit with
  | '0' :: _ :: _, _ => none
  | [], _ => none
  | _, [] => some (ofDigits negative 10 body)
  | _, '_' :: _ =>
    (ungrouped? (Text.isDigitIn 16) cs).map fun digits =>
      ofDigits negative 10 (cutSign digits).2
  | _, _ => none

/-- Drops digits with underscores among them.  There must be a digit and, if `isWhole`, no zero in
front of others. -/
def dropDigits? (isWhole : Bool) (cs : List Char) : Option (List Char) :=
  let isPart (c : Char) : Bool := c.isDigit || c == '_'
  let digits := (cs.takeWhile isPart).filter Char.isDigit
  if digits.isEmpty || (isWhole && cs.head? == some '0' && 1 < digits.length) then none
  else some (cs.dropWhile isPart)

/-- A floating-point number without its sign has a whole part and perhaps a fraction and an
exponent. -/
def isDecimal (cs : List Char) : Bool :=
  let fraction? : List Char → Option (List Char)
    | '.' :: cs => dropDigits? false cs
    | cs => some cs
  let exponent? : List Char → Option (List Char)
    | e :: cs =>
      if e == 'e' || e == 'E' then dropDigits? false (cutSign cs).2 else some (e :: cs)
    | [] => some []
  (((dropDigits? true cs).bind fraction?).bind exponent?).any List.isEmpty

/-- The value of a floating-point number without sign and underscores. -/
def decimal (cs : List Char) : Decimal :=
  let isE (c : Char) : Bool := c == 'e' || c == 'E'
  let mantissa := cs.takeWhile fun c => !isE c
  let (negative, digits) := cutSign ((cs.dropWhile fun c => !isE c).drop 1)
  let size : Int := Text.decimalValue digits
  let exponent := if negative then -size else size
  let (whole, fraction) := (Text.cutFirstChars '.' mantissa).getD (mantissa, [])
  ⟨Text.decimalValue (whole ++ fraction), exponent - fraction.length⟩

/-- A floating-point number. -/
def number? (cs : List Char) : Option Toml :=
  let (negative, body) := cutSign cs
  if isDecimal body then
    (ungrouped? Char.isDigit cs).map fun digits =>
      match (decimal (cutSign digits).2).toBinary? with
      | some b => .float (.finite negative b)
      | none => .unreadable
  else none

/-! ### Dates and times -/

/-- Exactly `n` digits with a value between two bounds. -/
def inRange (n low high : Nat) (cs : List Char) : Bool :=
  cs.length == n && cs.all Char.isDigit && low ≤ Text.decimalValue cs &&
    Text.decimalValue cs ≤ high

/-- The number of days of a month. -/
def daysIn (year month : Nat) : Nat :=
  let leap := year % 4 = 0 && (year % 100 != 0 || year % 400 = 0)
  if month = 2 then (if leap then 29 else 28)
  else if [4, 6, 9, 11].contains month then 30
  else 31

/-- A date. -/
def isDate (cs : List Char) : Bool :=
  match Text.splitChars '-' cs with
  | [year, month, day] =>
    inRange 4 0 9999 year && inRange 2 1 12 month &&
      inRange 2 1 (daysIn (Text.decimalValue year) (Text.decimalValue month)) day
  | _ => false

/-- A time of day; the seconds may be missing or have a fraction. -/
def isTime (cs : List Char) : Bool :=
  match Text.splitChars ':' cs with
  | [hour, minute] => inRange 2 0 23 hour && inRange 2 0 59 minute
  | [hour, minute, second] =>
    let (second, fraction) :=
      match Text.cutFirstChars '.' second with
      | some parts => parts
      | none => (second, ['0'])
    inRange 2 0 23 hour && inRange 2 0 59 minute && inRange 2 0 60 second &&
      !fraction.isEmpty && fraction.all Char.isDigit
  | _ => false

/-- A time of day with its distance from universal time, or without. -/
def isTimeWithOffset (cs : List Char) : Bool :=
  let isSign (c : Char) : Bool := c == '+' || c == '-'
  match cs.reverse with
  | z :: time =>
    if z == 'Z' || z == 'z' then isTime time.reverse
    else
      match cs.dropWhile fun c => !isSign c with
      | [] => isTime cs
      | _ :: offset =>
        isTime (cs.takeWhile fun c => !isSign c) &&
          match Text.splitChars ':' offset with
          | [hour, minute] => inRange 2 0 23 hour && inRange 2 0 59 minute
          | _ => false
  | [] => false

/-- A date, a time, or both, divided by a letter or a space. -/
def isDatetime (cs : List Char) : Bool :=
  isTime cs || isDate cs ||
    match cs.drop 10 with
    | mark :: time =>
      (mark == 'T' || mark == 't' || mark == ' ') && isDate (cs.take 10) && isTimeWithOffset time
    | [] => false

/-! ### Scalars -/

/-- A mark between the digits of a number that only a fraction or an exponent has. -/
def marksDecimal (c : Char) : Bool := c == '.' || c == 'e' || c == 'E'

/-- A number, date or time. -/
def quantity? (cs : List Char) : Option Toml :=
  match cs, (cutSign cs).2.dropWhile Char.isDigit with
  | '0' :: 'x' :: digits, _ => based? 16 digits
  | '0' :: 'o' :: digits, _ => based? 8 digits
  | '0' :: 'b' :: digits, _ => based? 2 digits
  | _, '-' :: _ => if isDatetime cs then some .datetime else none
  | _, ':' :: _ => if isDatetime cs then some .datetime else none
  | _, rest => if rest.any marksDecimal then number? cs else decimalInteger? cs

/-- The value that has a name. -/
def constant? (cs : List Char) : Option Toml :=
  let (negative, name) := cutSign cs
  if cs == "true".toList then some (.boolean true)
  else if cs == "false".toList then some (.boolean false)
  else if name == "inf".toList then some (.float (.infinite negative))
  else if name == "nan".toList then some (.float .undefined)
  else none

/-- The value a word stands for. -/
def scalar? (cs : List Char) : Option Toml := (constant? cs).or (quantity? cs)

/-- A character of a word: anything but a blank, a line end, and the marks between values. -/
def isScalarPart (c : Char) : Bool := !" \t\n\r,=#[]\x7b\x7d".toList.contains c

/-- The word at the place reached; a space between a date and a time belongs to it. -/
def word? (cs : List Char) : List Char × List Char :=
  let run := cs.takeWhile isScalarPart
  match cs.dropWhile isScalarPart with
  | ' ' :: d :: rest =>
    if isDate run && d.isDigit then
      (run ++ ' ' :: (d :: rest).takeWhile isScalarPart, (d :: rest).dropWhile isScalarPart)
    else (run, ' ' :: d :: rest)
  | rest => (run, rest)

end MockLens.Toml
