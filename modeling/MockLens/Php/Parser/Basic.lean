/-
**Parsers that recover.**

Source text under a cursor is usually incomplete, and the analysis has to make the best of it.  So a
parser that fails still says where it stopped: the rule that called it may go on from there.  Text
that is no token makes whoever looks at it fail, and is dropped by that.

The rules of the grammar refer to each other.  They are written over a record `Rules` that stands
for the four rules in which every recursion passes — a statement, an expression, a member of a
class-like, a parameter — and the knot is tied once, in `MockLens.Php.Parser`.

Main definitions:

* `TokenStream`, `TokenStream.look` — the tokens ahead, and looking at one of them;
* `Step`, `Parser` — the outcome of a parser, and parsers;
* `Parser.peek?`, `Parser.take`, `Parser.symbol`, … — reading tokens;
* `Parser.attempt`, `Parser.recovering` — going on after a failure;
* `Parser.delimited`, `Parser.separated` — lists with and without brackets;
* `Goal`, `Rules` — the rules that may be called from anywhere.
-/
import MockLens.Php.Lexer
import MockLens.Php.Tree

set_option autoImplicit false

namespace MockLens.Php

/-! ### Streams -/

/-- The tokens ahead, and the offset where the last token used up ended. -/
structure TokenStream where
  stop : Nat
  ahead : List Token
  deriving DecidableEq, Repr

/-- What is seen at a place ahead. -/
inductive Sight where
  | token (t : Token)
  /-- The end of the file, or what looks like it. -/
  | nothing
  /-- Text that is no token. -/
  | fault
  deriving DecidableEq, Repr

/-- What is seen `n` tokens behind the next one, and the tokens ahead without a fault or gap that
was met on the way. -/
def lookAhead : Nat → List Token → Sight × List Token
  | _, [] => (.nothing, [])
  | n, t :: rest =>
    if t.kind == .stray then (.fault, rest)
    else if t.kind == .gap then (.nothing, rest)
    else
      match n with
      | 0 => (.token t, t :: rest)
      | n + 1 =>
        let (seen, rest) := lookAhead n rest
        (seen, t :: rest)

namespace TokenStream

/-- What is seen `n` tokens behind the next one, and the stream after looking. -/
def look (n : Nat) (s : TokenStream) : Sight × TokenStream :=
  let (seen, rest) := lookAhead n s.ahead
  (seen, { s with ahead := rest })

/-- The stream behind the next token. -/
def skip (s : TokenStream) : TokenStream :=
  match s.ahead with
  | [] => s
  | t :: rest => ⟨t.span.stop, rest⟩

/-- The stream to go on from after a rule led from one stream to another: where the rule used up
nothing, the next token is passed over. -/
def onwards (before after : TokenStream) : TokenStream :=
  if after.stop == before.stop then after.skip else after

end TokenStream

/-! ### Parsers -/

/-- The outcome of a parser: a value or none, and the tokens not used. -/
inductive Step (α : Type) where
  | done (value : α) (rest : TokenStream)
  | failed (rest : TokenStream)

/-- A parser uses up tokens from the front of a stream. -/
def Parser (α : Type) : Type := TokenStream → Step α

instance : Monad Parser where
  pure value := fun s => .done value s
  bind p next := fun s =>
    match p s with
    | .done value rest => next value rest
    | .failed rest => .failed rest

namespace Parser

/-! ### Reading tokens -/

/-- Stops where it is. -/
def fail {α : Type} : Parser α := fun s => .failed s

/-- The offset where the last token used up ended. -/
def here : Parser Nat := fun s => .done s.stop s

/-- The token `n` tokens behind the next one, which is not used up; nothing at the end of the
file. -/
def peekAt? (n : Nat) : Parser (Option Token) := fun s =>
  match s.look n with
  | (.token t, s) => .done (some t) s
  | (.nothing, s) => .done none s
  | (.fault, s) => .failed s

/-- The next token, which is not used up; nothing at the end of the file. -/
def peek? : Parser (Option Token) := peekAt? 0

/-- The token behind the next one. -/
def peekSecond? : Parser (Option Token) := peekAt? 1

/-- The second token behind the next one. -/
def peekThird? : Parser (Option Token) := peekAt? 2

/-- The next token, which is not used up; fails at the end of the file. -/
def peek : Parser Token := do
  match ← peek? with
  | some t => pure t
  | none => fail

/-- Uses up the next token. -/
def take : Parser Token := fun s =>
  match s.look 0 with
  | (.token t, s) => .done t s.skip
  | (_, s) => .failed s

/-- Whether there is a next token and it is of the given kind. -/
def isNext (kind : TokenKind) : Parser Bool := do
  match ← peek? with
  | some t => pure (t.kind == kind)
  | none => pure false

/-- Uses up the next token, which has to be of the given kind. -/
def expect (kind : TokenKind) : Parser Token := do
  let t ← peek
  if t.kind == kind then take else fail

/-- Uses up the next token, which has to be the given symbol. -/
def symbol (text : String) : Parser Token := expect (.symbol text)

/-- Uses up the next token, which has to be the given keyword. -/
def keyword (word : String) : Parser Token := expect (.keyword word)

/-- The token behind the next one is of the given kind. -/
def isSecond (kind : TokenKind) : Parser Bool := do
  match ← peekSecond? with
  | some t => pure (t.kind == kind)
  | none => pure false

/-- Uses up the next token if it is of the given kind, and says whether it was. -/
def accept (kind : TokenKind) : Parser Bool := do
  if ← isNext kind then
    let _ ← take
    pure true
  else pure false

/-! ### Names -/

/-- A token that may serve as a name without backslashes: keywords may, too. -/
def isWord (kind : TokenKind) : Bool :=
  match kind with
  | .name => true
  | .keyword _ => true
  | .setter _ => true
  | _ => false

/-- A name without backslashes.  The token is used up also when it is none. -/
def word : Parser Identifier := do
  let t ← take
  if isWord t.kind then pure ⟨t.text, t.span⟩ else fail

/-- A name with or without backslashes.  The token is used up also when it is none. -/
def path : Parser Identifier := do
  let t ← take
  if isWord t.kind || t.kind == .qualifiedName || t.kind == .rootedName then pure ⟨t.text, t.span⟩
  else fail

/-! ### Going on after a failure -/

/-- Turns a failure into the absence of a value. -/
def attempt {α : Type} (p : Parser α) : Parser (Option α) := fun s =>
  match p s with
  | .done value rest => .done (some value) rest
  | .failed rest => .done none rest

/-- The values of `p` up to the end of the file or a token `stops` accepts, behind those already
read, latest first.  A failure of `p` costs one value; reading goes on where it stopped, or behind
the next token if it did not move. -/
def recovering {α : Type} (stops : TokenKind → Bool) (p : Parser α) :
    Nat → List α → Parser (List α)
  | 0, values => pure values.reverse
  | n + 1, values => fun s =>
    match s.look 0 with
    | (.nothing, s) => .done values.reverse s
    | (.fault, s) => .failed s
    | (.token t, s) =>
      if stops t.kind then .done values.reverse s
      else
        match p s with
        | .done value rest => recovering stops p n (value :: values) (s.onwards rest)
        | .failed rest => recovering stops p n values (s.onwards rest)

/-- A rule that passes over the next token where it uses up nothing. -/
def advancing {α : Type} (p : Parser α) : Parser α := fun s =>
  match p s with
  | .done value rest => .done value (s.onwards rest)
  | .failed rest => .failed rest

/-! ### Lists -/

/-- The items of a list up to its closer, behind those already read, latest first.  A failure costs
one item; where no comma follows, the list ends. -/
def items {α : Type} (item : Parser α) (closer : String) : Nat → List α → Parser (List α)
  | 0, values => pure values.reverse
  | n + 1, values => do
    match ← peek? with
    | none => pure values.reverse
    | some t =>
      if t.kind == .symbol closer then pure values.reverse
      else
        let values :=
          match ← attempt item with
          | some value => value :: values
          | none => values
        if ← accept (.symbol ",") then items item closer n values else pure values.reverse

/-- The end of a list: where its closer is missing but another token stands there, the list is taken
to end with that token, which is not used up. -/
def close (closer : String) : Parser Nat := do
  let t ← peek
  if t.kind == .symbol closer then
    let _ ← take
    pure t.span.stop
  else pure t.span.stop

/-- A list in brackets with commas between its items, and the offset where it ends. -/
def delimited {α : Type} (opener : String) (item : Parser α) (closer : String) (limit : Nat) :
    Parser (List α × Nat) := do
  let _ ← symbol opener
  let values ← items item closer limit []
  let stop ← close closer
  pure (values, stop)

/-- Items with commas between, behind those already read, latest first.  The list may be empty or
end with a comma: before each item, a token that `stops` accepts ends it. -/
def separatedUntil {α : Type} (stops : TokenKind → Bool) (item : Parser α) :
    Nat → List α → Parser (List α)
  | 0, values => pure values.reverse
  | n + 1, values => do
    let t ← peek
    if stops t.kind then pure values.reverse
    else
      let value ← item
      if ← accept (.symbol ",") then separatedUntil stops item n (value :: values)
      else pure (value :: values).reverse

/-- A list of at least one item with commas between, behind the items already read, latest
first. -/
def separated {α : Type} (item : Parser α) : Nat → List α → Parser (List α)
  | 0, values => pure values.reverse
  | n + 1, values => do
    let value ← item
    if ← accept (.symbol ",") then separated item n (value :: values)
    else pure (value :: values).reverse

/-- A token that ends a statement: a semicolon or a closing tag. -/
def endsStatement (kind : TokenKind) : Bool := kind == .symbol ";" || kind == .closeTag

/-- The end of a statement.  It may be missing if any token follows.  An opening tag right behind a
closing tag belongs to it. -/
def terminator : Parser Unit := do
  let t ← peek
  if endsStatement t.kind then
    let _ ← take
    if t.kind == .closeTag then
      let _ ← accept .openTag
      pure ()
    else pure ()
  else pure ()

end Parser

/-! ### Rules -/

/-- The rules that may be called from anywhere; `level` is the least binding strength an operator
may have to belong to the expression. -/
inductive Goal where
  | statement
  | expression (level : Nat)
  | member
  | parameter
  deriving DecidableEq, Repr

/-- What a rule yields. -/
def Goal.Result : Goal → Type
  | .statement => Stmt
  | .expression _ => Expr
  | .member => Member
  | .parameter => Parameter

/-- The rules one level further down, and a bound on the length of any list. -/
structure Rules where
  limit : Nat
  parse : (goal : Goal) → Parser goal.Result

namespace Rules

/-- A statement. -/
def statement (r : Rules) : Parser Stmt := r.parse .statement

/-- An expression whose operators bind at least as strongly as `level`. -/
def expressionAt (r : Rules) (level : Nat) : Parser Expr := r.parse (.expression level)

/-- Any expression. -/
def expression (r : Rules) : Parser Expr := r.expressionAt 0

/-- A member of a class-like. -/
def member (r : Rules) : Parser Member := r.parse .member

/-- A parameter of a function. -/
def parameter (r : Rules) : Parser Parameter := r.parse .parameter

/-- Statements in braces. -/
def block (r : Rules) : Parser (List Stmt) := do
  let _ ← Parser.symbol "\x7b"
  let body ← Parser.recovering (· == .symbol "\x7d") r.statement r.limit []
  let _ ← Parser.symbol "\x7d"
  pure body

/-- An expression in parentheses, which are no part of it. -/
def parenthesised (r : Rules) : Parser Expr := do
  let _ ← Parser.symbol "("
  let e ← r.expression
  let _ ← Parser.symbol ")"
  pure e

end Rules

end MockLens.Php
