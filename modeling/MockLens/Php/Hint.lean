/-
**The class names in a type hint.**

Main definitions:

* `Hint.text` — a hint as it is written, without blanks;
* `hintClassNames` — the names in the text of a hint that may be classes.
-/
import MockLens.Php.Tree

set_option autoImplicit false

namespace MockLens.Php

/-- A hint as it is written, without blanks. -/
def Hint.text : Hint → String
  | word text => text
  | nullable hint => "?" ++ hint.text
  | union left right => left.text ++ "|" ++ right.text
  | intersection left right => left.text ++ "&" ++ right.text
  | group hint => "(" ++ hint.text ++ ")"

/-- The names of built-in types that are no classes, in lower case. -/
def builtinTypes : List String :=
  ["array", "bool", "callable", "false", "float", "int", "iterable", "mixed", "never", "null",
   "object", "string", "true", "void"]

/-- The characters that may surround a name in the text of a hint. -/
def isHintMark (c : Char) : Bool := c == '?' || c == '(' || c == ')' || c == ' '

/-- The names in the text of a hint, from left to right, without those of built-in types. -/
def hintClassNames (text : String) : List String :=
  (Text.splitCharsBy (fun c => c == '|' || c == '&') text.toList).filterMap fun part =>
    let name := Text.trimBoth isHintMark (String.ofList part)
    if name == "" || builtinTypes.contains (Text.lower name) then none else some name

end MockLens.Php
