/-
**Signatures: hints, arguments, attributes and parameters.**

Main definitions:

* `Rules.hint` — a type hint;
* `Rules.argumentList`, `Rules.partialArgument` — the arguments of a call, and one argument of a
  call that may be partial;
* `Rules.attributes` — attributes, which are read and dropped;
* `Rules.parameters`, `Rules.parseParameter` — the parameters of a function, and one of them;
* `Rules.hooks` — the hooks of a property.
-/
import MockLens.Php.Parser.Basic

set_option autoImplicit false

namespace MockLens.Php

open MockLens.Php.Parser

/-! ### Hints -/

/-- The keywords that may stand as a type hint. -/
def hintKeywords : List String :=
  ["array", "callable", "null", "true", "false", "self", "static", "parent", "enum", "from"]

/-- A token a type hint may start with. -/
def startsHint (kind : TokenKind) : Bool :=
  match kind with
  | .name => true
  | .qualifiedName => true
  | .rootedName => true
  | .keyword word => hintKeywords.contains word
  | .symbol text => text == "?" || text == "("
  | _ => false

/-- A token that, behind an ampersand, shows that the ampersand belongs to a parameter. -/
def endsHint (kind : TokenKind) : Bool :=
  match kind with
  | .variable => true
  | .symbol text => text == "..." || text == "&" || text == "," || text == ")"
  | _ => false

/-- A type hint; unions and intersections group to the right. -/
def hint : Nat → Parser Hint
  | 0 => fail
  | n + 1 => do
    let t ← peek
    if !startsHint t.kind then fail
    else
      let _ ← take
      let left ←
        if t.kind == .symbol "?" then do
          let inner ← hint n
          pure (Hint.nullable inner)
        else if t.kind == .symbol "(" then do
          let inner ← hint n
          let _ ← symbol ")"
          pure (Hint.group inner)
        else pure (Hint.word t.text)
      if ← accept (.symbol "|") then
        let right ← hint n
        pure (.union left right)
      else if ← isNext (.symbol "&") then
        match ← peekSecond? with
        | none => pure left
        | some after =>
          if endsHint after.kind then pure left
          else
            let _ ← take
            let right ← hint n
            pure (.intersection left right)
      else pure left

namespace Rules

/-- A type hint. -/
def hint (r : Rules) : Parser Hint := Php.hint r.limit

/-- A hint behind a colon, which is read and dropped. -/
def returnHint (r : Rules) : Parser Unit := do
  if ← accept (.symbol ":") then
    let _ ← r.hint
    pure ()
  else pure ()

/-! ### Arguments -/

/-- Uses up a word with a colon behind it, which names an argument, and says whether there was
one. -/
def argumentName : Parser Bool := do
  let t ← peek
  if isWord t.kind then
    if ← isSecond (.symbol ":") then
      let _ ← take
      let _ ← take
      pure true
    else pure false
  else pure false

/-- An argument, perhaps behind its name or three dots. -/
def argument (r : Rules) : Parser Expr := do
  if ← argumentName then r.expression
  else
    let _ ← accept (.symbol "...")
    r.expression

/-- An argument of a call that may be partial; a placeholder has no value. -/
def partialArgument (r : Rules) : Parser (Option Expr) := do
  let isNamed ← argumentName
  if ← isNext (.symbol "?") then
    let _ ← take
    pure none
  else if !isNamed && (← isNext (.symbol "...")) then
    let after ← peekSecond?
    let _ ← take
    if after.any (fun a => a.kind == .symbol ")" || a.kind == .symbol ",") then pure none
    else
      let value ← r.expression
      pure (some value)
  else
    let value ← r.expression
    pure (some value)

/-- Arguments in parentheses and the offset where they end. -/
def argumentList (r : Rules) : Parser (List Expr × Nat) := delimited "(" r.argument ")" r.limit

/-- The arguments and the offset where they end, if the next token opens any. -/
def optionalArguments (r : Rules) : Parser (Option (List Expr × Nat)) := do
  if ← isNext (.symbol "(") then
    let (values, stop) ← r.argumentList
    pure (some (values, stop))
  else pure none

/-! ### Attributes -/

/-- One attribute: a name, perhaps with arguments. -/
def attributeItem (r : Rules) : Parser Unit := do
  let _ ← path
  let _ ← r.optionalArguments
  pure ()

/-- Any number of groups of attributes. -/
def attributesUpTo (r : Rules) : Nat → Parser Unit
  | 0 => pure ()
  | n + 1 => do
    if ← isNext (.symbol "#[") then
      let _ ← delimited "#[" r.attributeItem "]" r.limit
      attributesUpTo r n
    else pure ()

/-- Any number of groups of attributes. -/
def attributes (r : Rules) : Parser Unit := r.attributesUpTo r.limit

/-! ### Modifiers -/

/-- The keywords that modify a declaration. -/
def modifierKeywords : List String :=
  ["public", "protected", "private", "static", "abstract", "final", "readonly"]

/-- Any number of modifiers, latest first behind those already read. -/
def modifiersUpTo : Nat → List String → Parser (List String)
  | 0, found => pure found
  | n + 1, found => do
    match ← peek? with
    | none => pure found
    | some t =>
      match t.kind with
      | .keyword word =>
        if modifierKeywords.contains word then
          let _ ← take
          modifiersUpTo n (word :: found)
        else pure found
      | .setter word =>
        let _ ← take
        modifiersUpTo n (word :: found)
      | _ => pure found

/-- Any number of modifiers. -/
def modifiers (r : Rules) : Parser (List String) := modifiersUpTo r.limit []

/-! ### Parameters and property hooks -/

/-- A parameter behind its attributes and modifiers: its hint, its variable and its value. -/
def plainParameter (r : Rules) : Parser Parameter := do
  let t ← peek
  let hinted ←
    if startsHint t.kind then do
      let h ← r.hint
      pure (some h)
    else pure none
  let _ ← accept (.symbol "&")
  let _ ← accept (.symbol "...")
  let v ← expect .variable
  if ← accept (.symbol "=") then
    let _ ← r.expression
    pure ()
  pure ⟨v.text, hinted⟩

/-- The parameters of a function in parentheses. -/
def parameters (r : Rules) : Parser (List Parameter) := do
  let (found, _) ← delimited "(" r.parameter ")" r.limit
  pure found

/-- One hook of a property; its parameters bind nothing that is looked at. -/
def hook (r : Rules) : Parser Unit := do
  r.attributes
  let _ ← accept (.symbol "&")
  let _ ← r.modifiers
  let _ ← word
  if ← isNext (.symbol "(") then
    let _ ← r.parameters
    body
  else body
where
  /-- What a hook does. -/
  body : Parser Unit := do
    if ← accept (.symbol "=>") then
      let _ ← r.expression
      let _ ← symbol ";"
      pure ()
    else if ← accept (.symbol ";") then pure ()
    else
      let _ ← r.block
      pure ()

/-- Any number of hooks. -/
def hooksUpTo (r : Rules) : Nat → Parser Unit
  | 0 => pure ()
  | n + 1 => do
    if ← isNext (.symbol "\x7d") then pure ()
    else
      r.hook
      hooksUpTo r n

/-- The hooks of a property in braces. -/
def hooks (r : Rules) : Parser Unit := do
  let _ ← symbol "\x7b"
  r.hooksUpTo r.limit
  let _ ← symbol "\x7d"
  pure ()

/-- A parameter of a function, which may be a property with hooks. -/
def parseParameter (r : Rules) : Parser Parameter := do
  r.attributes
  let _ ← r.modifiers
  let p ← r.plainParameter
  if ← isNext (.symbol "\x7b") then r.hooks
  pure p

end Rules

end MockLens.Php
