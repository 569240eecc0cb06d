/-
**Tokens of the source language.**

Main definitions:

* `TokenKind`, `Token` — a token with its text and place;
* `reservedWords` — the words that are keywords, in lower case;
* `isNameStart`, `isNamePart` — the characters names are made of.
-/
import MockLens.Span
import MockLens.Text

set_option autoImplicit false

namespace MockLens.Php

/-- What a token is. -/
inductive TokenKind where
  /-- Text outside the code tags. -/
  | html
  | openTag
  | echoTag
  | closeTag
  /-- A variable with its dollar sign. -/
  | variable
  /-- A name without backslashes that is no keyword. -/
  | name
  /-- Names joined by backslashes. -/
  | qualifiedName
  /-- A name that starts with a backslash. -/
  | rootedName
  /-- A reserved word, here in lower case. -/
  | keyword (word : String)
  /-- A visibility for writing, such as `private(set)`, here in lower case. -/
  | setter (word : String)
  | number
  /-- A string without interpolation, quotes included. -/
  | quoted
  /-- An operator or a piece of punctuation. -/
  | symbol (text : String)
  /-- A type in parentheses that converts the operand behind it. -/
  | cast
  /-- The opening of a document string, up to its label. -/
  | documentStart
  /-- Literal text inside a string with interpolation. -/
  | textPart
  /-- The label that closes a document string. -/
  | documentEnd
  /-- A string that the end of the file cuts short. -/
  | unterminated
  /-- Text that is no token. -/
  | stray
  /-- A place where reading stops once, as at the end of a file, and then goes on. -/
  | gap
  deriving DecidableEq, Repr

/-- A token with its text and its place in the source. -/
structure Token where
  kind : TokenKind
  text : String
  span : Span
  deriving DecidableEq, Repr

/-- The characters of ASCII a name may start with. -/
def isAsciiNameStart (c : Char) : Bool := c.isAlpha || c == '_'

/-- The characters a name may start with. -/
def isNameStart (c : Char) : Bool := isAsciiNameStart c || 128 ≤ c.toNat

/-- The characters a name may go on with. -/
def isNamePart (c : Char) : Bool := isNameStart c || c.isDigit

/-- The words that are keywords wherever they stand. -/
def reservedWords : List String :=
  ["abstract", "and", "array", "as", "break", "callable", "case", "catch", "class", "clone",
   "const", "continue", "declare", "default", "die", "do", "echo", "else", "elseif", "empty",
   "enddeclare", "endfor", "endforeach", "endif", "endswitch", "endwhile", "enum", "eval",
   "exit", "extends", "false", "final", "finally", "fn", "for", "foreach", "from", "function",
   "global", "goto", "if", "implements", "include", "include_once", "instanceof", "insteadof",
   "interface", "isset", "list", "match", "namespace", "new", "null", "or", "parent", "print",
   "private", "protected", "public", "readonly", "require", "require_once", "return", "self",
   "static", "switch", "throw", "trait", "true", "try", "unset", "use", "var", "while", "xor",
   "yield", "__halt_compiler", "__class__", "__dir__", "__file__", "__function__", "__line__",
   "__method__", "__namespace__", "__property__", "__trait__"]

/-- The kind of a name without backslashes. -/
def wordKind (text : String) : TokenKind :=
  if reservedWords.contains (Text.lower text) then .keyword (Text.lower text) else .name

end MockLens.Php
