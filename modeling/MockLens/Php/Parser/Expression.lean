/-
**Expressions.**

An expression is read by binding strength: an operand, and then every operator behind it that binds
at least as strongly as the context asks for.  An assignment is special: whatever it stands behind,
it assigns to the last operand of it.

Main definitions:

* `Level` names the binding strengths;
* `assignTo` — the tree of an assignment behind an operand;
* `Rules.operand` — an expression without operators behind it;
* `Rules.climb` — the operators behind an operand;
* `Rules.parseExpression` — an expression of a given strength.
-/
import MockLens.Php.Parser.Signature
import MockLens.Php.Quoted

set_option autoImplicit false

namespace MockLens.Php

open MockLens.Php.Parser

/-! ### Binding strength -/

namespace Level

/-- The strength of the weakest operator. -/
def weakest : Nat := 1

/-- The strength of an assignment. -/
def assignment : Nat := 8

/-- The strength of a conditional. -/
def conditional : Nat := 9

/-- The strength of a negation. -/
def negation : Nat := 23

/-- The strength of the other operators before an operand. -/
def unary : Nat := 25

/-- The strength of a copy. -/
def clone : Nat := 27

/-- The strength of an increment or decrement. -/
def increment : Nat := 29

/-- The strength of a call and of the operand of a reference. -/
def call : Nat := 30

/-- The strength of an instantiation, whose class has no call of its own. -/
def new : Nat := 31

/-- The strength of a subscript. -/
def subscript : Nat := 32

/-- The strength of an arrow or a double colon. -/
def access : Nat := 33

end Level

/-- The strength of an operator between two operands, and whether it groups to the right. -/
def binaryLevel? (kind : TokenKind) : Option (Nat × Bool) :=
  match kind with
  | .keyword "or" => some (1, false)
  | .keyword "xor" => some (2, false)
  | .keyword "and" => some (3, false)
  | .keyword "instanceof" => some (24, false)
  | .symbol text =>
    match text with
    | "??" => some (10, true)
    | "||" => some (11, false)
    | "&&" => some (12, false)
    | "|" => some (13, false)
    | "^" => some (14, false)
    | "&" => some (15, false)
    | "==" => some (16, false)
    | "!=" => some (16, false)
    | "===" => some (16, false)
    | "!==" => some (16, false)
    | "<>" => some (16, false)
    | "<=>" => some (16, false)
    | "<" => some (17, false)
    | "<=" => some (17, false)
    | ">" => some (17, false)
    | ">=" => some (17, false)
    | "|>" => some (18, false)
    | "." => some (19, false)
    | "<<" => some (20, false)
    | ">>" => some (20, false)
    | "+" => some (21, false)
    | "-" => some (21, false)
    | "*" => some (22, false)
    | "/" => some (22, false)
    | "%" => some (22, false)
    | "**" => some (26, true)
    | _ => none
  | _ => none

/-- The operators that assign. -/
def assignmentOperators : List String :=
  ["=", "+=", "-=", "*=", "/=", ".=", "%=", "**=", "&=", "|=", "^=", "<<=", ">>=", "??="]

/-- A token is an operator that assigns. -/
def isAssignment (kind : TokenKind) : Bool :=
  match kind with
  | .symbol text => assignmentOperators.contains text
  | _ => false

/-- The strength with which an operator before an operand reads that operand. -/
def unaryLevel? (kind : TokenKind) : Option Nat :=
  match kind with
  | .cast => some Level.unary
  | .symbol text =>
    match text with
    | "!" => some Level.negation
    | "-" => some Level.unary
    | "+" => some Level.unary
    | "~" => some Level.unary
    | "@" => some Level.unary
    | "&" => some Level.call
    | "++" => some Level.call
    | "--" => some Level.call
    | _ => none
  | _ => none

/-! ### Assignments -/

/-- The operators that change the variable behind them. -/
def stepOperators : List String := ["++", "--"]

/-- An assignment behind an operand assigns to the last operand of it: `a && b = c` assigns to `b`,
`!a = c` to `a`.  A variable that is counted up or down is no part of its own. -/
def assignTo (plain : Bool) (value : Expr) : Nat → Expr → Expr
  | n + 1, .operation s (.unary op) [x] =>
    if stepOperators.contains op then
      .assign (s.upTo value.span) plain (.operation s (.unary op) [x]) value
    else
      let x := assignTo plain value n x
      .operation (s.upTo x.span) (.unary op) [x]
  | n + 1, .operation s (.binary op) [left, right] =>
    let right := assignTo plain value n right
    .operation (s.upTo right.span) (.binary op) [left, right]
  | n + 1, .conditional s c yes no =>
    let no := assignTo plain value n no
    .conditional (s.upTo no.span) c yes no
  | n + 1, .orElse s c no =>
    let no := assignTo plain value n no
    .orElse (s.upTo no.span) c no
  | _, target => .assign (target.span.upTo value.span) plain target value

/-! ### Expressions that are not there -/

/-- The keywords that start a statement; an expression that is not there leaves them to it. -/
def statementKeywords : List String :=
  ["if", "else", "elseif", "while", "do", "for", "foreach", "switch", "try", "catch", "finally",
   "class", "interface", "trait", "enum", "function", "fn", "return", "break", "continue", "goto",
   "declare", "use", "const", "global", "abstract", "final"]

/-- The brackets and commas that an operand that is not there leaves to the list it is in. -/
def listSymbols : List String := [")", "]", "\x7d", ","]

namespace Rules

/-- In the place of an expression that no token starts stands a missing one.  The token is used up
unless it starts a statement or, in the place of an operand, ends an item of a list; where it is
left, the missing expression takes up no room. -/
def missing (level : Nat) : Parser Expr := do
  let t ← peek
  let isLeft :=
    match t.kind with
    | .keyword word => statementKeywords.contains word
    | .symbol text => level != 0 && listSymbols.contains text
    | _ => false
  if isLeft then
    let place ← here
    pure (.construct ⟨place, place⟩ .missing [])
  else
    let _ ← take
    pure (.construct t.span .missing [])

/-! ### Variables and selectors -/

/-- A variable, perhaps one named by an expression. -/
def variableExpr (r : Rules) : Nat → Parser Expr
  | 0 => fail
  | n + 1 => do
    let t ← peek
    if t.kind == .variable then
      let _ ← take
      pure (.var t.span t.text)
    else if t.kind == .symbol "$" then
      let _ ← take
      let inner ← r.variableExpr n
      pure (.construct (t.span.upTo inner.span) .indirectVariable [inner])
    else if t.kind == .symbol "$\x7b" then
      let _ ← take
      let inner ← r.expression
      let last ← symbol "\x7d"
      pure (.construct (t.span.upTo last.span) .indirectVariable [inner])
    else fail

/-- A token that starts a variable. -/
def startsVariable (kind : TokenKind) : Bool :=
  kind == .variable || kind == .symbol "$" || kind == .symbol "$\x7b"

/-- What stands behind an arrow or double colon, and the offset where it ends.  A token that can not
stand there is left, and the selector is missing, as it is at the end of the file. -/
def selector (r : Rules) : Parser (Selector × Nat) := do
  match ← peek? with
  | none => absent
  | some t =>
    if isWord t.kind then
      let _ ← take
      pure (.named ⟨t.text, t.span⟩, t.span.stop)
    else if startsVariable t.kind then
      let v ← r.variableExpr r.limit
      pure (.computed v, v.span.stop)
    else if t.kind == .symbol "\x7b" then
      let _ ← take
      let value ← r.expression
      let last ← symbol "\x7d"
      pure (.computed value, last.span.stop)
    else absent
where
  /-- No selector. -/
  absent : Parser (Selector × Nat) := do
    let place ← here
    pure (.missing, place)

/-- An element, or a new place at the end, of an array. -/
def subscript (r : Rules) (left : Expr) : Parser Expr := do
  let _ ← take
  let t ← peek
  if t.kind == .symbol "]" then
    let _ ← take
    pure (.construct (left.span.upTo t.span) .append [left])
  else
    let index ← r.expression
    let last ← symbol "]"
    pure (.construct (left.span.upTo last.span) .subscript [left, index])

/-! ### Strings with interpolation -/

/-- The subscript or the property behind a variable in a string. -/
def interpolatedAccess (r : Rules) (v : Expr) : Parser Expr := do
  match ← peek? with
  | none => pure v
  | some t =>
    if t.kind == .symbol "[" then r.subscript v
    else if t.kind == .symbol "->" || t.kind == .symbol "?->" then
      let _ ← take
      let (name, stop) ← r.selector
      pure (.property ⟨v.span.start, stop⟩ (t.kind == .symbol "?->") v name)
    else pure v

/-- The pieces of a string up to its end, latest first behind those already read, and the offset
where the string ends.  A token that starts no piece is a piece of its own. -/
def templateParts (r : Rules) (closer : TokenKind) : Nat → List Expr → Parser (List Expr × Nat)
  | 0, _ => fail
  | n + 1, parts => do
    let t ← peek
    if t.kind == closer then
      let _ ← take
      pure (parts.reverse, t.span.stop)
    else if t.kind == .textPart then
      let _ ← take
      r.templateParts closer n parts
    else if t.kind == .symbol "\x7b" || t.kind == .symbol "$\x7b" then
      let _ ← take
      let e ← r.expression
      let _ ← symbol "\x7d"
      r.templateParts closer n (e :: parts)
    else if startsVariable t.kind then
      let v ← r.variableExpr r.limit
      let e ← r.interpolatedAccess v
      r.templateParts closer n (e :: parts)
    else
      let _ ← take
      r.templateParts closer n parts

/-- A token that opens a string with interpolation. -/
def opensTemplate (kind : TokenKind) : Bool :=
  kind == .documentStart || kind == .symbol "\"" || kind == .symbol "\x60"

/-- A string with interpolation, behind the token that opens it. -/
def template (r : Rules) (opening : Token) : Parser Expr := do
  let _ ← take
  let closer :=
    match opening.kind with
    | .documentStart => TokenKind.documentEnd
    | kind => if kind == .symbol "\x60" then kind else .symbol "\""
  let (parts, stop) ← r.templateParts closer r.limit []
  pure (.construct ⟨opening.span.start, stop⟩ .template parts)

/-! ### Arrays and choices -/

/-- An element of an array: a pair, a spread or a value; none before a comma. -/
def element (r : Rules) : Parser Expr := do
  let t ← peek
  if t.kind == .symbol "," then pure (.construct t.span .missing [])
  else if t.kind == .symbol "..." then
    let _ ← take
    let value ← r.expression
    pure (.operation (t.span.upTo value.span) .spread [value])
  else
    let first ← r.expression
    if ← accept (.symbol "=>") then
      let value ← r.expression
      pure (.operation (first.span.upTo value.span) .pair [first, value])
    else pure first

/-- The conditions of an arm up to its double arrow, latest first behind those already read. -/
def armConditions (r : Rules) : Nat → List Expr → Parser (List Expr)
  | 0, _ => fail
  | n + 1, found => do
    if ← isNext (.symbol "=>") then pure found.reverse
    else
      let e ← r.expression
      if ← accept (.symbol ",") then r.armConditions n (e :: found)
      else pure (e :: found).reverse

/-- An arm of a choice. -/
def choiceArm (r : Rules) : Parser Expr := do
  let t ← peek
  let conditions ←
    if t.kind == .keyword "default" then do
      let _ ← take
      let _ ← accept (.symbol ",")
      pure []
    else r.armConditions r.limit []
  let _ ← symbol "=>"
  let body ← r.expression
  pure (.arm (t.span.upTo body.span) conditions body)

/-! ### Functions as values -/

/-- A variable a closure takes along. -/
def capture : Parser String := do
  let _ ← accept (.symbol "&")
  let v ← expect .variable
  pure v.text

/-- A closure or a short function, which starts at offset `start`. -/
def functionValue (r : Rules) (start : Nat) : Parser Expr := do
  let _ ← accept (.keyword "static")
  let t ← peek
  if t.kind == .keyword "function" then
    let _ ← take
    let _ ← accept (.symbol "&")
    let ps ← r.parameters
    let captures ←
      if ← accept (.keyword "use") then do
        let (found, _) ← delimited "(" capture ")" r.limit
        pure found
      else pure []
    r.returnHint
    let _ ← symbol "\x7b"
    let body ← recovering (· == .symbol "\x7d") r.statement r.limit []
    let last ← symbol "\x7d"
    pure (.closure ⟨start, last.span.stop⟩ ps captures body)
  else
    let _ ← keyword "fn"
    let _ ← accept (.symbol "&")
    let ps ← r.parameters
    r.returnHint
    let _ ← symbol "=>"
    let body ← r.expression
    pure (.arrow ⟨start, body.span.stop⟩ ps body)

/-! ### Instantiations -/

/-- The members of a class-like in braces, and the offset where they end. -/
def memberBlock (r : Rules) : Parser (List Member × Nat) := do
  let _ ← symbol "\x7b"
  let members ← recovering (· == .symbol "\x7d") r.member r.limit []
  let last ← symbol "\x7d"
  pure (members, last.span.stop)

/-- The class-likes behind `extends` or `implements`, which are read and dropped. -/
def ancestors (r : Rules) (word : String) : Parser Unit := do
  if ← accept (.keyword word) then
    let _ ← separated path r.limit []
    pure ()
  else pure ()

/-- By what stands behind its keyword, an instantiation declares its class on the spot. -/
def declaresClass (after : TokenKind) : Parser Bool :=
  if [TokenKind.keyword "class", .symbol "#[", .keyword "abstract", .keyword "final"].contains
      after then pure true
  else if after == .keyword "readonly" then do
    let third ← peekThird?
    pure (third.any (fun a => a.kind == .keyword "class"))
  else pure false

/-- An instantiation, of a named class or of one declared on the spot; `after` stands behind its
keyword. -/
def instantiation (r : Rules) (after : Option TokenKind) : Parser Expr := do
  let declares ←
    match after with
    | some kind => declaresClass kind
    | none => pure false
  let first ← take
  if declares then
    r.attributes
    let _ ← r.modifiers
    let _ ← keyword "class"
    let arguments ← r.optionalArguments
    r.ancestors "extends"
    r.ancestors "implements"
    let (members, stop) ← r.memberBlock
    pure (.newAnonymous ⟨first.span.start, stop⟩ ((arguments.map Prod.fst).getD []) members)
  else
    let cls ← r.expressionAt Level.new
    match ← r.optionalArguments with
    | some (values, stop) => pure (.new ⟨first.span.start, stop⟩ cls values)
    | none => pure (.new (first.span.upTo cls.span) cls [])

/-! ### Calls and accesses behind an operand -/

/-- The call with the given arguments, which `build` makes; with placeholders among the arguments
the call is partial. -/
def callOf (span : Span) (parts : List Expr) (build : Span → List Expr → Expr)
    (values : List (Option Expr)) : Expr :=
  if values.any Option.isNone then
    .construct span .partialCall (parts ++ values.filterMap id)
  else build span (values.filterMap id)

/-- The call of `left` with the arguments ahead, which may be partial. -/
def callWith (r : Rules) (left : Expr) (build : Span → List Expr → Expr) : Parser Expr := do
  let (values, stop) ← delimited "(" r.partialArgument ")" r.limit
  pure (callOf ⟨left.span.start, stop⟩ [left] build values)

/-- A property or a method behind an arrow; only a call with a plain arrow may be partial. -/
def arrowAccess (r : Rules) (level : Nat) (left : Expr) : Parser Expr := do
  let arrow ← take
  let nullsafe := arrow.kind == .symbol "?->"
  let (name, stop) ← r.selector
  if level ≤ Level.call then
    if ← isNext (.symbol "(") then
      if nullsafe then
        let (arguments, stop) ← r.argumentList
        pure (.methodCall ⟨left.span.start, stop⟩ left name arguments)
      else r.callWith left fun span arguments => .methodCall span left name arguments
    else pure (.property ⟨left.span.start, stop⟩ nullsafe left name)
  else pure (.property ⟨left.span.start, stop⟩ nullsafe left name)

/-- A static member or a static method behind a double colon, which does not end the file. -/
def staticAccess (r : Rules) (level : Nat) (left : Expr) : Parser Expr := do
  let _ ← take
  let _ ← peek
  let (name, stop) ← r.selector
  if level ≤ Level.call then
    if ← isNext (.symbol "(") then
      r.callWith left fun span arguments => .staticCall span left name arguments
    else pure (.classMember ⟨left.span.start, stop⟩ left)
  else pure (.classMember ⟨left.span.start, stop⟩ left)

/-- A conditional behind its condition. -/
def conditional (r : Rules) (left : Expr) : Parser Expr := do
  let _ ← take
  if ← accept (.symbol ":") then
    let no ← r.expressionAt (Level.conditional + 1)
    pure (.orElse (left.span.upTo no.span) left no)
  else
    let yes ← r.expression
    let _ ← symbol ":"
    let no ← r.expressionAt (Level.conditional + 1)
    pure (.conditional (left.span.upTo no.span) left yes no)

/-- The rule for what stands behind an operand, if it belongs to an expression of the given
strength. -/
def suffix (r : Rules) (level : Nat) (left : Expr) (t : Token) : Option (Parser Expr) :=
  match t.kind with
  | .symbol "(" =>
    if level ≤ Level.call && !left.isMissing then
      some (r.callWith left fun span arguments => .call span left arguments)
    else none
  | .symbol "[" => if level ≤ Level.subscript then some (r.subscript left) else none
  | .symbol "->" => if level ≤ Level.access then some (r.arrowAccess level left) else none
  | .symbol "?->" => if level ≤ Level.access then some (r.arrowAccess level left) else none
  | .symbol "::" => if level ≤ Level.access then some (r.staticAccess level left) else none
  | .symbol "?" => if level ≤ Level.conditional then some (r.conditional left) else none
  | kind =>
    if kind == .symbol "++" || kind == .symbol "--" then
      if level ≤ Level.increment then
        some do
          let op ← take
          pure (.operation (left.span.upTo op.span) (.postfixed op.text) [left])
      else none
    else if isAssignment kind then
      if level ≤ Level.assignment then
        some do
          let op ← take
          let refers ← isNext (.symbol "&")
          let strength :=
            if refers && op.kind == .symbol "=" then Level.call else Level.assignment
          let value ← r.expressionAt strength
          pure (assignTo (op.kind == .symbol "=") value r.limit left)
      else none
    else
      match binaryLevel? kind with
      | some (strength, toRight) =>
        if level ≤ strength then
          some do
            let op ← take
            let right ← r.expressionAt (if toRight then strength else strength + 1)
            let span := left.span.upTo right.span
            if op.kind == .symbol "|>" then pure (.construct span .pipe [left, right])
            else pure (.operation span (.binary op.text) [left, right])
        else none
      | none => none

/-- Everything behind an operand that belongs to an expression of the given strength. -/
def climb (r : Rules) (level : Nat) : Nat → Expr → Parser Expr
  | 0, left => pure left
  | n + 1, left => do
    match ← peek? with
    | none => pure left
    | some t =>
      match r.suffix level left t with
      | none => pure left
      | some rule =>
        let next ← rule
        r.climb level n next

/-! ### Operands -/

/-- A copy of an object; `after` stands behind its keyword.  In parentheses stands a list of
arguments: where it is one value the copy is made of that, and otherwise this is the call of a
function. -/
def copy (r : Rules) (after : Option TokenKind) : Parser Expr := do
  let first ← take
  if after == some (.symbol "(") then
    let t ← take
    let spreads ← isNext (.symbol "...")
    let values ← separatedUntil (· == .symbol ")") r.partialArgument r.limit []
    let last ← symbol ")"
    let span := first.span.upTo last.span
    match spreads, values with
    | false, [some inner] => pure (.clone span (.paren (t.span.upTo last.span) inner))
    | _, _ =>
      let callee := Expr.name first.span first.text
      pure (callOf span [] (fun span arguments => .call span callee arguments) values)
  else
    let object ← r.expressionAt Level.clone
    pure (.clone (first.span.upTo object.span) object)

/-- What a generator yields, if anything. -/
def yielding (r : Rules) : Parser Expr := do
  let first ← take
  if ← accept (.keyword "from") then
    let e ← r.expressionAt Level.weakest
    pure (.construct (first.span.upTo e.span) .yield [e])
  else
    match ← peek? with
    | none => pure (.construct first.span .yield [])
    | some t =>
      if t.kind == .closeTag || [";", ")", "]", ",", "\x7d"].any (t.kind == .symbol ·) then
        pure (.construct first.span .yield [])
      else
        let e ← r.expressionAt Level.weakest
        if ← accept (.symbol "=>") then
          let value ← r.expressionAt Level.weakest
          pure (.construct (first.span.upTo value.span) .yield [e, value])
        else pure (.construct (first.span.upTo e.span) .yield [e])

/-- The test whether variables are set, or their removal. -/
def query (r : Rules) : Parser Expr := do
  let first ← take
  let (values, stop) ← delimited "(" r.expression ")" r.limit
  pure (.construct ⟨first.span.start, stop⟩ .query values)

/-- A construct that takes one expression in parentheses. -/
def queryOne (r : Rules) : Parser Expr := do
  let first ← take
  let _ ← symbol "("
  let value ← r.expression
  let last ← symbol ")"
  pure (.construct (first.span.upTo last.span) .query [value])

/-- The end of the program, perhaps with a status. -/
def exiting (r : Rules) : Parser Expr := do
  let first ← take
  match ← r.optionalArguments with
  | some (values, stop) => pure (.construct ⟨first.span.start, stop⟩ .exit values)
  | none => pure (.construct first.span .exit [])

/-- A name, though it is a keyword. -/
def wordName : Parser Expr := do
  let t ← take
  pure (.name t.span t.text)

/-- An operand that starts with a keyword, the token `t`; `after` stands behind it. -/
def keywordOperand (r : Rules) (level : Nat) (t : Token) (after : Option TokenKind)
    (word : String) : Parser Expr :=
  match word with
  | "true" => literal
  | "false" => literal
  | "null" => literal
  | "self" => classWord .self
  | "parent" => classWord .parent
  | "static" =>
    if after == some (.keyword "function") || after == some (.keyword "fn") then
      r.functionValue t.span.start
    else classWord .static
  | "function" => r.functionValue t.span.start
  | "fn" => r.functionValue t.span.start
  | "new" => r.instantiation after
  | "clone" => r.copy after
  | "throw" => do
    let _ ← take
    let e ← r.expression
    pure (.operation (t.span.upTo e.span) .raise [e])
  | "yield" => r.yielding
  | "print" => unvisited .print Level.weakest
  | "include" => unvisited .inclusion 0
  | "include_once" => unvisited .inclusion 0
  | "require" => unvisited .inclusion 0
  | "require_once" => unvisited .inclusion 0
  | "isset" => r.query
  | "unset" => r.query
  | "empty" => r.queryOne
  | "eval" => r.queryOne
  | "exit" => r.exiting
  | "die" => r.exiting
  | "list" =>
    if after == some (.symbol "(") then do
      let _ ← take
      let (elements, stop) ← delimited "(" r.element ")" r.limit
      pure (.construct ⟨t.span.start, stop⟩ .destructuring elements)
    else wordName
  | "array" =>
    if after == some (.symbol "(") then do
      let _ ← take
      let (elements, stop) ← delimited "(" r.element ")" r.limit
      pure (.operation ⟨t.span.start, stop⟩ .array elements)
    else missing level
  | "match" =>
    if after == some (.symbol "(") then do
      let _ ← take
      let subject ← r.parenthesised
      let (arms, stop) ← delimited "\x7b" r.choiceArm "\x7d" r.limit
      pure (.operation ⟨t.span.start, stop⟩ .choice (subject :: arms))
    else wordName
  | "from" => wordName
  | "enum" => wordName
  | "readonly" => wordName
  | _ => if Text.startsWith "__" word && word != "__halt_compiler" then magic else missing level
where
  /-- A literal, which is a name before a double colon. -/
  literal : Parser Expr := do
    let _ ← take
    pure (if after == some (.symbol "::") then .name t.span t.text
      else .construct t.span .literal [])
  /-- A magic constant. -/
  magic : Parser Expr := do
    let _ ← take
    pure (.construct t.span .magic [])
  /-- A word that stands for a class. -/
  classWord (w : ClassWord) : Parser Expr := do
    let _ ← take
    pure (.classWord t.span w)
  /-- A construct before an expression of the given strength. -/
  unvisited (form : Construct) (strength : Nat) : Parser Expr := do
    let _ ← take
    let e ← r.expressionAt strength
    pure (.construct (t.span.upTo e.span) form [e])

/-- An expression without operators behind it, at its first token.  Its first two tokens decide what
it is. -/
def plainOperand (r : Rules) (level : Nat) (t : Token) : Parser Expr := do
  let second ← peekSecond?
  match t.kind with
  | .variable =>
    let _ ← take
    pure (.var t.span t.text)
  | .number =>
    let _ ← take
    pure (.construct t.span .literal [])
  | .quoted =>
    let _ ← take
    pure (.string t.span (Quoted.value t.text))
  | .name =>
    let _ ← take
    pure (.name t.span t.text)
  | .qualifiedName =>
    let _ ← take
    pure (.name t.span t.text)
  | .rootedName =>
    let _ ← take
    pure (.name t.span t.text)
  | .keyword word => r.keywordOperand level t (second.map Token.kind) word
  | .symbol text =>
    if text == "$" || text == "$\x7b" then r.variableExpr r.limit
    else if text == "(" then
      let _ ← take
      let inner ← r.expression
      let last ← symbol ")"
      pure (.paren (t.span.upTo last.span) inner)
    else if text == "[" then
      let (elements, stop) ← delimited "[" r.element "]" r.limit
      pure (.operation ⟨t.span.start, stop⟩ .array elements)
    else if text == "#[" then
      r.attributes
      r.functionValue t.span.start
    else prefixed t
  | _ => prefixed t
where
  /-- An operator before an operand, or no expression at all. -/
  prefixed (t : Token) : Parser Expr :=
    match unaryLevel? t.kind with
    | some strength => do
      let _ ← take
      let x ← r.expressionAt strength
      pure (.operation (t.span.upTo x.span) (.unary t.text) [x])
    | none => missing level

/-- An expression without operators behind it. -/
def operand (r : Rules) (level : Nat) : Parser Expr := do
  let t ← peek
  if opensTemplate t.kind then r.template t else r.plainOperand level t

/-- An expression whose operators bind at least as strongly as `level`. -/
def parseExpression (r : Rules) (level : Nat) : Parser Expr := do
  let left ← r.operand level
  r.climb level r.limit left

end Rules

end MockLens.Php
