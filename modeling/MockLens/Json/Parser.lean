/-
**Reading JSON.**

A text is first cut into tokens, one character at a time; the tokens are then read with a stack of
the arrays and objects that are still open.

Main definitions:

* `Json.Token`, `Json.tokens` — the tokens of a text;
* `Json.Frame`, `Json.Reader` — the open containers, and what may come next;
* `Json.parseFront?`, `Json.parse?` — the value at the front of a text, and of a whole text.
-/
import MockLens.Json
import MockLens.Text

set_option autoImplicit false

namespace MockLens.Json

/-! ### Tokens -/

/-- A token: a mark of punctuation, or a value that contains no other. -/
inductive Token where
  | mark (c : Char)
  | value (v : Json)
  deriving Repr

/-- Splits digits off the front. -/
def cutDigits (cs : List Char) : List Char × List Char :=
  (cs.takeWhile Char.isDigit, cs.dropWhile Char.isDigit)

/-- The exponent that ends a number. -/
def exponent? : List Char → Option Int
  | [] => some 0
  | e :: cs =>
    if e == 'e' || e == 'E' then
      let (negative, digits) :=
        match cs with
        | '+' :: ds => (false, ds)
        | '-' :: ds => (true, ds)
        | ds => (false, ds)
      if digits.isEmpty || !digits.all Char.isDigit then none
      else some (if negative then -(Text.decimalValue digits : Int) else Text.decimalValue digits)
    else none

/-- A number without its sign, and whether it is written as an integer; zeros in front are not
allowed. -/
def unsigned? (cs : List Char) : Option (Decimal × Bool) :=
  let (whole, rest) := cutDigits cs
  if whole.isEmpty || (whole.head? == some '0' && 1 < whole.length) then none
  else
    match rest with
    | [] => some (⟨Text.decimalValue whole, 0⟩, true)
    | '.' :: rest =>
      let (fraction, rest) := cutDigits rest
      if fraction.isEmpty then none
      else
        (exponent? rest).map fun e =>
          (⟨Text.decimalValue (whole ++ fraction), e - fraction.length⟩, false)
    | rest => (exponent? rest).map fun e => (⟨Text.decimalValue whole, e⟩, false)

/-- The value of a number: an integer of 64 bits if it is one, and otherwise a floating-point
number, unless it is too large for that. -/
def number? (negative : Bool) (d : Decimal) (isWhole : Bool) : Option Json :=
  if isWhole && negative && d.digits != 0 && d.digits ≤ Nat.pow 2 63 then
    some (integer (-(d.digits : Int)))
  else if isWhole && !negative && d.digits < Nat.pow 2 64 then some (integer d.digits)
  else d.toBinary?.map (float negative)

/-- The value a run of letters, digits and signs stands for. -/
def word? (cs : List Char) : Option Json :=
  if cs == "null".toList then some null
  else if cs == "true".toList then some (bool true)
  else if cs == "false".toList then some (bool false)
  else
    match cs with
    | '-' :: rest => (unsigned? rest).bind fun (d, isWhole) => number? true d isWhole
    | _ => (unsigned? cs).bind fun (d, isWhole) => number? false d isWhole

/-- Where in a token the reading is.  Characters read so far stand last first. -/
inductive Place where
  | between
  | word (read : List Char)
  | text (read : List Char)
  /-- Behind a backslash. -/
  | escape (read : List Char)
  /-- Inside `\u`: the digits still owed, and the value of those read; `high` is the first half of a
  pair, if there is one. -/
  | unit (read : List Char) (high : Option Nat) (owed value : Nat)
  /-- Behind the first half of a pair, and behind the backslash after it. -/
  | half (read : List Char) (high : Nat)
  | halfEscape (read : List Char) (high : Nat)

/-- The character a single letter behind a backslash stands for. -/
def escapedChar? : Char → Option Char
  | '"' => some '"'
  | '\\' => some '\\'
  | '/' => some '/'
  | 'b' => some '\x08'
  | 'f' => some '\x0c'
  | 'n' => some '\n'
  | 'r' => some '\r'
  | 't' => some '\t'
  | _ => none

/-- The place after a complete `\u`: two halves make one character, and neither stands alone. -/
def closeUnit (read : List Char) (high : Option Nat) (value : Nat) : Option Place :=
  let isHigh := 0xD800 ≤ value && value < 0xDC00
  let isLow := 0xDC00 ≤ value && value < 0xE000
  match high with
  | some h =>
    let whole := 0x10000 + (h - 0xD800) * 1024 + (value - 0xDC00)
    if isLow then some (.text (Char.ofNat whole :: read)) else none
  | none =>
    if isHigh then some (.half read value)
    else if isLow then none
    else some (.text (Char.ofNat value :: read))

/-- Reads a character between tokens. -/
def start (done : List Token) (c : Char) : Option (Place × List Token) :=
  if c == ' ' || c == '\t' || c == '\n' || c == '\r' then some (.between, done)
  else if ['\x7b', '\x7d', '[', ']', ',', ':'].contains c then some (.between, .mark c :: done)
  else if c == '"' then some (.text [], done)
  else if c.isAlphanum || c == '-' then some (.word [c], done)
  else none

/-- Reads a character; the tokens read so far stand last first. -/
def advance (done : List Token) (c : Char) : Place → Option (Place × List Token)
  | .between => start done c
  | .word read =>
    if c.isAlphanum || c == '-' || c == '+' || c == '.' then some (.word (c :: read), done)
    else (word? read.reverse).bind fun v => start (.value v :: done) c
  | .text read =>
    if c == '"' then some (.between, .value (string (String.ofList read.reverse)) :: done)
    else if c == '\\' then some (.escape read, done)
    else if c.toNat < 0x20 then none
    else some (.text (c :: read), done)
  | .escape read =>
    if c == 'u' then some (.unit read none 3 0, done)
    else (escapedChar? c).map fun e => (.text (e :: read), done)
  | .unit read high owed value =>
    (Text.hexDigit? c).bind fun d =>
      match owed with
      | 0 => (closeUnit read high (16 * value + d)).map fun place => (place, done)
      | owed + 1 => some (.unit read high owed (16 * value + d), done)
  | .half read high => if c == '\\' then some (.halfEscape read high, done) else none
  | .halfEscape read high => if c == 'u' then some (.unit read (some high) 3 0, done) else none

/-- Reads characters from a place up to one that fits nowhere, and tells whether there was none; a
string must be closed at the end. -/
def tokensFrom : Place → List Token → List Char → List Token × Bool
  | .between, done, [] => (done.reverse, true)
  | .word read, done, [] =>
    match word? read.reverse with
    | some v => ((.value v :: done).reverse, true)
    | none => (done.reverse, false)
  | _, done, [] => (done.reverse, false)
  | place, done, c :: cs =>
    match advance done c place with
    | some (place, done) => tokensFrom place done cs
    | none => (done.reverse, false)

/-- The tokens of a text up to a fault, and whether there is none. -/
def tokens (cs : List Char) : List Token × Bool := tokensFrom .between [] cs

/-! ### Values -/

/-- An open container with what it holds so far, the last first. -/
inductive Frame where
  | array (items : List Json)
  | object (fields : List (String × Json)) (name : String)

/-- What may come next. -/
inductive Expecting where
  /-- A value. -/
  | value
  /-- A value, or the end of the array just opened. -/
  | valueOrEnd
  /-- A field's name, or the end of the object just opened. -/
  | nameOrEnd
  | name
  | colon
  /-- A comma, or the end of the innermost container. -/
  | separator
  deriving DecidableEq, Repr

/-- The open containers, the innermost first, and what may come next; `result` is the value read
when no container is open. -/
structure Reader where
  frames : List Frame := []
  expecting : Expecting := .value
  result : Option Json := none

/-- The number of containers that may be open at once. -/
def maxDepth : Nat := 127

namespace Reader

/-- Reads a complete value. -/
def put (r : Reader) (v : Json) : Reader :=
  match r.frames with
  | [] => { r with expecting := .separator, result := some v }
  | .array items :: outer =>
    { r with frames := .array (v :: items) :: outer, expecting := .separator }
  | .object fields name :: outer =>
    { r with frames := .object ((name, v) :: fields) name :: outer, expecting := .separator }

/-- Opens a container. -/
def openFrame (r : Reader) (frame : Frame) (expecting : Expecting) : Option Reader :=
  if r.frames.length < maxDepth then
    some { r with frames := frame :: r.frames, expecting := expecting }
  else none

/-- Reads a token. -/
def step (r : Reader) (t : Token) : Option Reader :=
  match r.expecting, t, r.frames with
  | .nameOrEnd, .value (.string name), .object fields _ :: outer =>
    some { r with frames := .object fields name :: outer, expecting := .colon }
  | .name, .value (.string name), .object fields _ :: outer =>
    some { r with frames := .object fields name :: outer, expecting := .colon }
  | .colon, .mark ':', _ => some { r with expecting := .value }
  | .value, .value v, _ => some (r.put v)
  | .valueOrEnd, .value v, _ => some (r.put v)
  | .value, .mark '[', _ => r.openFrame (.array []) .valueOrEnd
  | .valueOrEnd, .mark '[', _ => r.openFrame (.array []) .valueOrEnd
  | .value, .mark '\x7b', _ => r.openFrame (.object [] "") .nameOrEnd
  | .valueOrEnd, .mark '\x7b', _ => r.openFrame (.object [] "") .nameOrEnd
  | .separator, .mark ',', .array _ :: _ => some { r with expecting := .value }
  | .separator, .mark ',', .object _ _ :: _ => some { r with expecting := .name }
  | .separator, .mark ']', .array items :: outer =>
    some (put { r with frames := outer } (.array items.reverse))
  | .valueOrEnd, .mark ']', .array items :: outer =>
    some (put { r with frames := outer } (.array items.reverse))
  | .separator, .mark '\x7d', .object fields _ :: outer =>
    some (put { r with frames := outer } (.object fields.reverse))
  | .nameOrEnd, .mark '\x7d', .object fields _ :: outer =>
    some (put { r with frames := outer } (.object fields.reverse))
  | _, _, _ => none

/-- Reads tokens up to the end of a value, and gives the others back. -/
def run : Reader → List Token → Option (Json × List Token)
  | ⟨_, _, some v⟩, rest => some (v, rest)
  | _, [] => none
  | r, t :: ts =>
    match r.step t with
    | some r => run r ts
    | none => none

end Reader

/-- The value at the front of a text, and whether nothing but blanks follows it. -/
def parseFront? (s : String) : Option (Json × Bool) :=
  let (found, isWhole) := tokens s.toList
  (Reader.run {} found).map fun (v, rest) => (v, isWhole && rest.isEmpty)

/-- The value of a text; nothing but blanks may stand around it. -/
def parse? (s : String) : Option Json :=
  match parseFront? s with
  | some (v, true) => some v
  | _ => none

end MockLens.Json
