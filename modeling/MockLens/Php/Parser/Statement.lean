/-
**Statements.**

Main definitions:

* `Rules.ifStatement`, `Rules.switchStatement`, … — the rules for the kinds of statement;
* `Rules.parseStatement` — a statement.
-/
import MockLens.Php.Parser.ClassLike

set_option autoImplicit false

namespace MockLens.Php

open MockLens.Php.Parser

namespace Rules

/-! ### Bodies -/

/-- Statements up to one of the given keywords, which is not used up, latest first behind those
already read. -/
def statementsUntil (r : Rules) (stops : List String) : Nat → List Stmt → Parser (List Stmt)
  | 0, _ => fail
  | n + 1, found => do
    let t ← peek
    let isEnd :=
      match t.kind with
      | .keyword word => stops.contains word
      | _ => false
    if isEnd then pure found.reverse
    else
      let s ← advancing r.statement
      r.statementsUntil stops n (s :: found)

/-- The body of a loop: a statement, or statements between a colon and a keyword. -/
def body (r : Rules) (last : String) : Parser (List Stmt) := do
  if ← accept (.symbol ":") then
    let found ← r.statementsUntil [last] r.limit []
    let _ ← keyword last
    terminator
    pure found
  else
    let s ← r.statement
    pure [s]

/-! ### Branches -/

/-- What follows the body of a condition written without a colon. -/
def elseClauses (r : Rules) : Nat → Parser (List Stmt)
  | 0 => fail
  | n + 1 => do
    if ← accept (.keyword "elseif") then
      let condition ← r.parenthesised
      let yes ← r.statement
      let no ← r.elseClauses n
      pure [.ifElse condition [yes] no]
    else if ← accept (.keyword "else") then
      let no ← r.statement
      pure [no]
    else pure []

/-- What follows the body of a condition written with a colon, up to its end. -/
def colonClauses (r : Rules) : Nat → Parser (List Stmt)
  | 0 => fail
  | n + 1 => do
    if ← accept (.keyword "elseif") then
      let condition ← r.parenthesised
      let _ ← symbol ":"
      let yes ← r.statementsUntil ["elseif", "else", "endif"] r.limit []
      let no ← r.colonClauses n
      pure [.ifElse condition yes no]
    else if ← accept (.keyword "else") then
      let _ ← symbol ":"
      let no ← r.statementsUntil ["endif"] r.limit []
      let _ ← keyword "endif"
      terminator
      pure no
    else
      let _ ← keyword "endif"
      terminator
      pure []

/-- A condition with its branches. -/
def ifStatement (r : Rules) : Parser Stmt := do
  let _ ← take
  let condition ← r.parenthesised
  if ← accept (.symbol ":") then
    let yes ← r.statementsUntil ["elseif", "else", "endif"] r.limit []
    let no ← r.colonClauses r.limit
    pure (.ifElse condition yes no)
  else
    let yes ← r.statement
    let no ← r.elseClauses r.limit
    pure (.ifElse condition [yes] no)

/-- The colon, or semicolon, behind the label of a case.  The token is used up also when it is
neither. -/
def caseSeparator : Parser Unit := do
  let t ← take
  if t.kind == .symbol ":" || t.kind == .symbol ";" then pure () else fail

/-- The statements of a case, latest first behind those already read. -/
def caseBody (r : Rules) : Nat → List Stmt → Parser (List Stmt)
  | 0, _ => fail
  | n + 1, statements => do
    let t ← peek
    if [TokenKind.keyword "case", .keyword "default", .keyword "endswitch",
        .symbol "\x7d"].contains t.kind then
      pure statements.reverse
    else
      let s ← advancing r.statement
      r.caseBody n (s :: statements)

/-- The cases of a switch, latest first behind those already read. -/
def switchCases (r : Rules) : Nat → List Stmt → Parser (List Stmt)
  | 0, _ => fail
  | n + 1, found => do
    let t ← peek
    match t.kind with
    | .keyword "case" =>
      let _ ← take
      let label ← r.expression
      caseSeparator
      let statements ← r.caseBody r.limit []
      r.switchCases n (.case [label] statements :: found)
    | .keyword "default" =>
      let _ ← take
      caseSeparator
      let statements ← r.caseBody r.limit []
      r.switchCases n (.case [] statements :: found)
    | _ => pure found.reverse

/-- The end of a statement, which may stand before the cases. -/
def leadingTerminator : Parser Unit := do
  let t ← peek
  if endsStatement t.kind then terminator else pure ()

/-- A switch. -/
def switchStatement (r : Rules) : Parser Stmt := do
  let _ ← take
  let subject ← r.parenthesised
  if ← accept (.symbol ":") then
    leadingTerminator
    let cases ← r.switchCases r.limit []
    let _ ← keyword "endswitch"
    terminator
    pure (.switch subject cases)
  else
    let _ ← symbol "\x7b"
    leadingTerminator
    let cases ← r.switchCases r.limit []
    let _ ← symbol "\x7d"
    pure (.switch subject cases)

/-! ### Loops -/

/-- A loop over the elements of a collection. -/
def foreachStatement (r : Rules) : Parser Stmt := do
  let _ ← take
  let _ ← symbol "("
  let subject ← r.expression
  let _ ← keyword "as"
  let first ← r.expression
  let targets ←
    if ← accept (.symbol "=>") then do
      let value ← r.expression
      pure [first, value]
    else pure [first]
  let _ ← symbol ")"
  let statements ← r.body "endforeach"
  pure (.foreachLoop subject targets statements)

/-- Expressions up to the given symbol, which is used up. -/
def header (r : Rules) (last : String) : Parser (List Expr) := do
  let found ← separatedUntil (· == .symbol last) r.expression r.limit []
  let _ ← symbol last
  pure found

/-- A counting loop. -/
def forStatement (r : Rules) : Parser Stmt := do
  let _ ← take
  let _ ← symbol "("
  let initial ← r.header ";"
  let conditions ← r.header ";"
  let increments ← r.header ")"
  let statements ← r.body "endfor"
  pure (.forLoop initial conditions increments statements)

/-- A loop that tests before each round. -/
def whileStatement (r : Rules) : Parser Stmt := do
  let _ ← take
  let condition ← r.parenthesised
  let statements ← r.body "endwhile"
  pure (.whileLoop condition statements)

/-- A loop that tests after each round. -/
def doStatement (r : Rules) : Parser Stmt := do
  let _ ← take
  let s ← r.statement
  let _ ← keyword "while"
  let condition ← r.parenthesised
  terminator
  pure (.doWhileLoop [s] condition)

/-! ### Exceptions -/

/-- The handlers behind guarded statements, latest first behind those already read. -/
def handlers (r : Rules) : Nat → List Stmt → Parser (List Stmt)
  | 0, _ => fail
  | n + 1, found => do
    if ← accept (.keyword "catch") then
      let _ ← symbol "("
      let _ ← r.hint
      let bound ←
        if ← isNext .variable then do
          let v ← take
          pure (some v.text)
        else pure none
      let _ ← symbol ")"
      let statements ← r.block
      r.handlers n (.handler bound statements :: found)
    else if ← accept (.keyword "finally") then
      let statements ← r.block
      pure (Stmt.handler none statements :: found).reverse
    else pure found.reverse

/-- Statements with handlers. -/
def tryStatement (r : Rules) : Parser Stmt := do
  let _ ← take
  let statements ← r.block
  let found ← r.handlers r.limit []
  pure (.guarded statements found)

/-! ### Namespaces and imports -/

/-- A namespace, with its statements in braces or up to the next namespace. -/
def scopeStatement (r : Rules) : Parser Stmt := do
  let _ ← take
  let t ← peek
  let name ←
    if t.kind == .symbol ";" || t.kind == .symbol "\x7b" || t.kind == .closeTag then pure none
    else do
      let found ← path
      pure (some found.text)
  if ← isNext (.symbol "\x7b") then
    let statements ← r.block
    pure (.scope name statements)
  else
    terminator
    let statements ← recovering (· == .keyword "namespace") r.statement r.limit []
    pure (.scope name statements)

/-- An imported name with its alias. -/
def importItem : Parser ImportItem := do
  let name ← path
  if ← accept (.keyword "as") then
    let short ← word
    pure ⟨name.text, some short.text⟩
  else pure ⟨name.text, none⟩

/-- An item of a group, unless it imports a function or a constant. -/
def groupItem : Parser (Option ImportItem) := do
  let t ← peek
  if t.kind == .keyword "function" || t.kind == .keyword "const" then
    let _ ← take
    let _ ← importItem
    pure none
  else
    let item ← importItem
    pure (some item)

/-- The items of a group in braces. -/
def groupItems {α : Type} (r : Rules) (item : Parser α) : Parser (List α) := do
  let _ ← symbol "\x7b"
  let found ← separatedUntil (· == .symbol "\x7d") item r.limit []
  let _ ← symbol "\x7d"
  pure found

/-- An import of functions or constants, behind its keyword: nothing of it is kept. -/
def importOthers (r : Rules) : Parser Stmt := do
  let _ ← take
  let _ ← importItem
  if ← accept (.symbol "\\") then
    let _ ← r.groupItems importItem
    terminator
    pure (.inert [] [])
  else if ← accept (.symbol ",") then
    let _ ← separated importItem r.limit []
    terminator
    pure (.inert [] [])
  else
    terminator
    pure (.inert [] [])

/-- An import. -/
def importStatement (r : Rules) : Parser Stmt := do
  let _ ← take
  let t ← peek
  if t.kind == .keyword "function" || t.kind == .keyword "const" then r.importOthers
  else
    let first ← importItem
    let isGroup ← isNext (.symbol "\\")
    if first.short.isNone && isGroup then
      let _ ← take
      let found ← r.groupItems groupItem
      terminator
      pure (.imports ⟨some first.path, found.filterMap id⟩)
    else if ← accept (.symbol ",") then
      let more ← separated importItem r.limit []
      terminator
      pure (.imports ⟨none, first :: more⟩)
    else
      terminator
      pure (.imports ⟨none, [first]⟩)

/-! ### Other statements -/

/-- Expressions with commas between, up to the end of the statement. -/
def listStatement (r : Rules) : Parser (List Expr) := do
  let _ ← take
  let found ← separatedUntil endsStatement r.expression r.limit []
  terminator
  pure found

/-- An expression that may be missing, up to the end of the statement. -/
def optionalStatement (r : Rules) : Parser (List Expr) := do
  let _ ← take
  let t ← peek
  if t.kind == .symbol ";" || t.kind == .closeTag then
    terminator
    pure []
  else
    let e ← r.expression
    terminator
    pure [e]

/-- A variable that outlives its function, with its first value. -/
def staticItem (r : Rules) : Parser (List Expr) := do
  let v ← expect .variable
  if ← accept (.symbol "=") then
    let value ← r.expression
    pure [.var v.span v.text, value]
  else pure [.var v.span v.text]

/-- Directives, for the rest of the file or for a body. -/
def declareStatement (r : Rules) : Parser Stmt := do
  let _ ← take
  let _ ← symbol "("
  let values ← separatedUntil (· == .symbol ")") r.constantItem r.limit []
  let _ ← symbol ")"
  let statements ← r.body "enddeclare"
  pure (.inert values statements)

/-- A function. -/
def functionStatement (r : Rules) : Parser Stmt := do
  let _ ← take
  let _ ← accept (.symbol "&")
  let name ← word
  let ps ← r.parameters
  r.returnHint
  let statements ← r.block
  pure (.function name ps statements)

/-- An expression as a statement. -/
def expressionStatement (r : Rules) : Parser Stmt := do
  let e ← r.expression
  terminator
  pure (.evaluate .drop [e])

/-- A function as a statement, which starts at offset `start`.  No operator belongs to it. -/
def functionValueStatement (r : Rules) (start : Nat) : Parser Stmt := do
  let e ← r.functionValue start
  terminator
  pure (.evaluate .drop [e])

/-- A label, whose colon is the second token, or else an expression. -/
def labelOrExpression (r : Rules) : Parser Stmt := do
  if ← isSecond (.symbol ":") then
    let _ ← take
    let _ ← take
    pure (.inert [] [])
  else r.expressionStatement

/-- A class behind modifiers. -/
def modifiedClass (r : Rules) : Parser Stmt := do
  let _ ← r.modifiers
  let t ← peek
  if t.kind == .keyword "class" then r.classLike .cls else fail

/-- The keyword ahead starts a function without a name. -/
def isUnnamed : Parser Bool := do
  if ← isSecond (.symbol "(") then pure true
  else if ← isSecond (.symbol "&") then
    let third ← peekThird?
    pure (third.any (fun a => a.kind == .symbol "("))
  else pure false

/-- A statement that starts with a keyword, the token `t`. -/
def keywordStatement (r : Rules) (t : Token) (word : String) : Parser Stmt :=
  match word with
  | "namespace" => r.scopeStatement
  | "use" => r.importStatement
  | "const" => do
    let _ ← take
    let values ← separatedUntil endsStatement r.constantItem r.limit []
    terminator
    pure (.inert values [])
  | "class" => r.classLike .cls
  | "interface" => r.classLike .interface
  | "trait" => r.classLike .trait
  | "enum" => do
    let after ← peekSecond?
    if after.any (fun a => a.kind == .symbol "(" || a.kind == .symbol ":") then
      r.labelOrExpression
    else r.classLike .enum
  | "abstract" => modified
  | "final" => modified
  | "readonly" => modified
  | "function" => do
    if ← isUnnamed then r.functionValueStatement t.span.start else r.functionStatement
  | "declare" => r.declareStatement
  | "global" => do
    let _ ← take
    let vs ← separatedUntil endsStatement (r.variableExpr r.limit) r.limit []
    terminator
    pure (.inert vs [])
  | "static" => do
    if ← isSecond .variable then
      let _ ← take
      let found ← separatedUntil endsStatement r.staticItem r.limit []
      terminator
      pure (.inert found.flatten [])
    else r.labelOrExpression
  | "unset" => do
    let _ ← take
    let (values, _) ← delimited "(" r.expression ")" r.limit
    terminator
    pure (.inert values [])
  | "if" => r.ifStatement
  | "switch" => r.switchStatement
  | "while" => r.whileStatement
  | "do" => r.doStatement
  | "for" => r.forStatement
  | "foreach" => r.foreachStatement
  | "try" => r.tryStatement
  | "return" => do
    let values ← r.optionalStatement
    pure (.evaluate .answer values)
  | "break" => do
    let values ← r.optionalStatement
    pure (.inert values [])
  | "continue" => do
    let values ← r.optionalStatement
    pure (.inert values [])
  | "echo" => do
    let values ← r.listStatement
    pure (.evaluate .echo values)
  | "goto" => do
    let _ ← take
    let _ ← Parser.word
    terminator
    pure (.inert [] [])
  | "__halt_compiler" => do
    let _ ← take
    let _ ← symbol "("
    let _ ← symbol ")"
    terminator
    pure (.inert [] [])
  | _ => r.labelOrExpression
where
  /-- A class behind modifiers, unless the modifier is used as a name. -/
  modified : Parser Stmt := do
    let after ← peekSecond?
    if after.any (fun a => a.kind == .symbol "(" || a.kind == .symbol "::") then
      r.expressionStatement
    else r.modifiedClass

/-- A declaration, or a function as a value, behind attributes. -/
def attributedStatement (r : Rules) : Parser Stmt := do
  let opening ← peek
  r.attributes
  let t ← peek
  match t.kind with
  | .keyword "fn" => r.functionValueStatement opening.span.start
  | .keyword "static" => r.functionValueStatement opening.span.start
  | .keyword "function" =>
    if ← isUnnamed then r.functionValueStatement opening.span.start else r.functionStatement
  | .keyword "enum" => r.classLike .enum
  | .keyword "readonly" => r.modifiedClass
  | .keyword word =>
    if ["class", "interface", "trait", "abstract", "final", "const"].contains word then
      r.keywordStatement t word
    else fail
  | _ => fail

/-- A statement. -/
def parseStatement (r : Rules) : Parser Stmt := do
  let t ← peek
  match t.kind with
  | .html =>
    let _ ← take
    pure (.inert [] [])
  | .openTag =>
    let _ ← take
    pure (.inert [] [])
  | .closeTag =>
    let _ ← take
    pure (.inert [] [])
  | .echoTag =>
    let values ← r.listStatement
    pure (.inert values [])
  | .keyword word => r.keywordStatement t word
  | .symbol "\x7b" =>
    let statements ← r.block
    pure (.block statements)
  | .symbol ";" =>
    let _ ← take
    pure (.inert [] [])
  | .symbol "#[" => r.attributedStatement
  | .name => r.labelOrExpression
  | .setter _ => r.labelOrExpression
  | _ => r.expressionStatement

end Rules

end MockLens.Php
