/-
**The text before a cursor.**

While a call is being typed the source does not parse, so completion reads the text before the
cursor backwards.  It recognises two shapes: the first argument of a static call being typed inside
quotes, and a member being typed behind an arrow.  Everywhere here `before` is the text in reverse,
the character nearest to the cursor first.

Main definitions:

* `Cursor.isWord`, `Cursor.isPathPart` — the characters of a name, and of a name with backslashes;
* `Cursor.OpenLiteral`, `Cursor.openLiteral?` — `Class::method('typed`;
* `Cursor.receiver?` — the text before the arrow of `receiver->typed`;
* `Cursor.variableBefore?` — the variable a text ends with.
-/
import MockLens.Text

set_option autoImplicit false

namespace MockLens

namespace Cursor

/-- The letters and digits of ASCII and the underscore. -/
def isWord (c : Char) : Bool := c.isAlphanum || c == '_'

/-- A character of a word, or a backslash. -/
def isPathPart (c : Char) : Bool := isWord c || c == '\\'

/-- The first argument of a static call, being typed inside quotes. -/
structure OpenLiteral where
  /-- The class as written. -/
  className : String
  method : String
  /-- The byte offset behind the opening quote. -/
  start : Nat
  /-- What stands between the quote and the cursor. -/
  typed : String
  deriving DecidableEq, Repr

/-- A run of characters that was read backwards. -/
def forwards (cs : List Char) : String := String.ofList cs.reverse

/-- Reads `Class::method` backwards; `start` and `typed` are what is known of the argument. -/
def staticCall? (start : Nat) (typed : String) (before : List Char) : Option OpenLiteral :=
  let method := before.takeWhile isWord
  match before.dropWhile isWord with
  | ':' :: ':' :: rest =>
    let className := rest.takeWhile isPathPart
    if method.isEmpty || className.isEmpty then none
    else some ⟨forwards className, forwards method, start, typed⟩
  | _ => none

/-- Reads `Class::method('typed` backwards; blanks may stand on either side of the parenthesis. -/
def openLiteral? (before : List Char) : Option OpenLiteral :=
  let typed := before.takeWhile isPathPart
  match before.dropWhile isPathPart with
  | quote :: rest =>
    if quote == '\'' || quote == '"' then
      match rest.dropWhile Text.isBlank with
      | '(' :: callee =>
        staticCall? (Text.byteLength (quote :: rest)) (forwards typed)
          (callee.dropWhile Text.isBlank)
      | _ => none
    else none
  | [] => none

/-- The text before the arrow behind which a member is being typed; the arrow may have a question
mark, and blanks on either side. -/
def receiver? (before : List Char) : Option (List Char) :=
  match (before.dropWhile isWord).dropWhile Text.isBlank with
  | '>' :: '-' :: '?' :: rest => some (rest.dropWhile Text.isBlank)
  | '>' :: '-' :: rest => some (rest.dropWhile Text.isBlank)
  | _ => none

/-- The variable, with its dollar sign, a text ends with. -/
def variableBefore? (before : List Char) : Option String :=
  let name := before.takeWhile isWord
  match before.dropWhile isWord with
  | '$' :: _ => if name.isEmpty then none else some ("$" ++ forwards name)
  | _ => none

end Cursor

end MockLens
