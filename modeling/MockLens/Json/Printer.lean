/-
**Writing JSON.**

Main definitions:

* `Json.quote`, `Json.floatText` — a text between quotes, and the text of a number;
* `Json.compact` — a value on one line, without blanks;
* `Json.pretty` — a value with one item or field a line, two blanks deeper in each container.
-/
import MockLens.Json
import MockLens.Text

set_option autoImplicit false

namespace MockLens.Json

/-- A character inside quotes: quotes, backslashes and control characters are escaped. -/
def escapeChar (c : Char) : List Char :=
  if c == '"' then ['\\', '"']
  else if c == '\\' then ['\\', '\\']
  else if c == '\n' then ['\\', 'n']
  else if c == '\r' then ['\\', 'r']
  else if c == '\t' then ['\\', 't']
  else if c == '\x08' then ['\\', 'b']
  else if c == '\x0c' then ['\\', 'f']
  else if c.toNat < 0x20 then
    ['\\', 'u', '0', '0', Text.hexDigit (c.toNat / 16), Text.hexDigit (c.toNat % 16)]
  else [c]

/-- A text between quotes. -/
def quote (s : String) : String := String.ofList ('"' :: s.toList.flatMap escapeChar ++ ['"'])

/-- A floating-point number in the fewest digits that read back.  It has an exponent when it is less
than `0.00001` or has more than sixteen digits before the point. -/
def floatText (negative : Bool) (value : Binary) : String :=
  let d := value.shortest
  let place : Int := d.exponent + Decimal.size d.digits
  let isPlain := d.digits == 0 || (-5 < place && place ≤ 16)
  (if negative then "-" else "") ++ if isPlain then d.text else d.scientific

mutual

/-- A value on one line. -/
def compact : Json → String
  | null => "null"
  | bool value => if value then "true" else "false"
  | integer value => toString value
  | float negative value => floatText negative value
  | string value => quote value
  | array items => "[" ++ ",".intercalate (compactItems items) ++ "]"
  | object fields => "\x7b" ++ ",".intercalate (compactFields fields) ++ "\x7d"

/-- The items of an array, each on one line. -/
def compactItems : List Json → List String
  | [] => []
  | v :: vs => compact v :: compactItems vs

/-- The fields of an object, each on one line. -/
def compactFields : List (String × Json) → List String
  | [] => []
  | (name, v) :: fields => (quote name ++ ":" ++ compact v) :: compactFields fields

end

/-- The start of a line at a depth. -/
def newLine (depth : Nat) : String := "\n" ++ String.ofList (List.replicate (2 * depth) ' ')

/-- Lines between brackets; a container without any stays on its line. -/
def block (depth : Nat) (opening closing : String) (lines : List String) : String :=
  match lines with
  | [] => opening ++ closing
  | lines =>
    opening ++ newLine (depth + 1) ++ ("," ++ newLine (depth + 1)).intercalate lines ++
      newLine depth ++ closing

mutual

/-- A value over several lines, inside `depth` containers. -/
def prettyAt (depth : Nat) : Json → String
  | null => "null"
  | bool value => if value then "true" else "false"
  | integer value => toString value
  | float negative value => floatText negative value
  | string value => quote value
  | array items => block depth "[" "]" (prettyItems (depth + 1) items)
  | object fields => block depth "\x7b" "\x7d" (prettyFields (depth + 1) fields)

/-- The items of an array, inside `depth` containers. -/
def prettyItems (depth : Nat) : List Json → List String
  | [] => []
  | v :: vs => prettyAt depth v :: prettyItems depth vs

/-- The fields of an object, inside `depth` containers. -/
def prettyFields (depth : Nat) : List (String × Json) → List String
  | [] => []
  | (name, v) :: fields => (quote name ++ ": " ++ prettyAt depth v) :: prettyFields depth fields

end

/-- A value over several lines. -/
def pretty (v : Json) : String := prettyAt 0 v

end MockLens.Json
