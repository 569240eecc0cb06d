/-
**The parser: from source text to a program tree.**

The rules of the grammar call each other through `Rules`; here the knot is tied.  Each level of
rules calls those one level further down, and below the last there is failure.  Between two
calls that use up a token at most two use up none, so four levels for every token are more than any
text needs.

Main definitions:

* `ruleAt` — the rule for a goal at a level;
* `parseTokens`, `parseFile` — the statements of a file.
-/
import MockLens.Php.Parser.Statement

set_option autoImplicit false

namespace MockLens.Php

/-- The rule for a goal, `level` levels above failure. -/
def ruleAt : Nat → (goal : Goal) → Parser goal.Result
  | 0, _ => Parser.fail
  | level + 1, .statement => Rules.parseStatement ⟨level, ruleAt level⟩
  | level + 1, .expression strength => Rules.parseExpression ⟨level, ruleAt level⟩ strength
  | level + 1, .member => Rules.parseMember ⟨level, ruleAt level⟩
  | level + 1, .parameter => Rules.parseParameter ⟨level, ruleAt level⟩

/-- The statements of a file, behind those already read, latest first.  A statement that fails is
left out; reading goes on where it stopped, or behind the next token if it did not move, and ends at
text that is no token. -/
def statementsOf (rule : Parser Stmt) : Nat → List Stmt → TokenStream → List Stmt
  | 0, found, _ => found.reverse
  | n + 1, found, s =>
    match s.look 0 with
    | (.token _, s) =>
      match rule s with
      | .done statement rest => statementsOf rule n (statement :: found) (s.onwards rest)
      | .failed rest => statementsOf rule n found (s.onwards rest)
    | _ => found.reverse

/-- The statements that a list of tokens forms. -/
def parseTokens (tokens : List Token) : List Stmt :=
  let level := 4 * tokens.length + 8
  statementsOf (ruleAt level .statement) (tokens.length + 1) [] ⟨0, tokens⟩

/-- The statements of a source text. -/
def parseFile (content : List Char) : List Stmt := parseTokens (tokenize content)

end MockLens.Php
