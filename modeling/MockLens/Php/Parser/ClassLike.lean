/-
**Class-likes and their members.**

Main definitions:

* `Rules.parseMember` — a member of a class-like;
* `Rules.classLike` — a class, interface, trait or enumeration.
-/
import MockLens.Php.Parser.Expression

set_option autoImplicit false

namespace MockLens.Php

open MockLens.Php.Parser

namespace Rules

/-! ### Members -/

/-- The method an adaptation of a used trait is about, and whether its trait is named. -/
def adaptedMethod : Parser Bool := do
  if ← isSecond (.symbol "::") then
    let _ ← path
    let _ ← take
    let _ ← word
    pure true
  else
    let _ ← word
    pure false

/-- A visibility, if one stands here. -/
def visibility : Parser Unit := do
  let t ← peek
  let isVisibility :=
    match t.kind with
    | .keyword word => ["public", "protected", "private"].contains word
    | .setter _ => true
    | _ => false
  if isVisibility then
    let _ ← take
    pure ()
  else pure ()

/-- A method of a used trait is given another name or visibility, or preferred over those of other
traits. -/
def adaptation (r : Rules) : Parser Unit := do
  let isFull ← adaptedMethod
  if isFull && (← isNext (.keyword "insteadof")) then
    let _ ← take
    let _ ← separatedUntil endsStatement path r.limit []
    terminator
  else
    let _ ← keyword "as"
    visibility
    let t ← peek
    if endsStatement t.kind then terminator
    else
      let _ ← word
      terminator

/-- Any number of adaptations. -/
def adaptations (r : Rules) : Nat → Parser Unit
  | 0 => fail
  | n + 1 => do
    if ← accept (.symbol "\x7d") then pure ()
    else
      r.adaptation
      adaptations r n

/-- A token that ends the traits of a use. -/
def endsTraits (kind : TokenKind) : Bool := endsStatement kind || kind == .symbol "\x7b"

/-- A use of traits. -/
def traitUse (r : Rules) : Parser Member := do
  let _ ← take
  let _ ← separatedUntil endsTraits path r.limit []
  if ← accept (.symbol "\x7b") then
    r.adaptations r.limit
    pure .other
  else
    terminator
    pure .other

/-- The name and value of a constant. -/
def constantItem (r : Rules) : Parser Expr := do
  let _ ← word
  let _ ← symbol "="
  r.expression

/-- A constant of a class-like; a type may stand before its name. -/
def constantMember (r : Rules) : Parser Member := do
  let _ ← take
  let after ← peekSecond?
  if after.any (fun a => a.kind == .symbol "=" || a.kind == .symbol ";") then
    let _ ← separated r.constantItem r.limit []
    terminator
    pure .other
  else
    let _ ← r.hint
    let _ ← separated r.constantItem r.limit []
    terminator
    pure .other

/-- A case of an enumeration. -/
def enumCase (r : Rules) : Parser Member := do
  let _ ← take
  let _ ← word
  if ← accept (.symbol "=") then
    let _ ← r.expression
    terminator
    pure .other
  else
    terminator
    pure .other

/-- A method behind its modifiers. -/
def method (r : Rules) (modifiers : List String) : Parser Member := do
  let _ ← take
  let _ ← accept (.symbol "&")
  let name ← word
  let ps ← r.parameters
  r.returnHint
  let isStatic := modifiers.contains "static"
  if ← accept (.symbol ";") then pure (.method name isStatic ps [])
  else
    let body ← r.block
    pure (.method name isStatic ps body)

/-- The name of a property, with its value read and dropped. -/
def propertyItem (r : Rules) : Parser String := do
  let v ← expect .variable
  if ← accept (.symbol "=") then
    let _ ← r.expression
    pure v.text
  else pure v.text

/-- A property behind its modifiers. -/
def property (r : Rules) : Parser Member := do
  let t ← peek
  let hinted ←
    if startsHint t.kind then do
      let h ← r.hint
      pure (some h)
    else pure none
  let first ← r.propertyItem
  if ← isNext (.symbol "\x7b") then
    r.hooks
    pure (.property hinted [first])
  else if ← accept (.symbol ",") then
    let more ← separated r.propertyItem r.limit []
    terminator
    pure (.property hinted (first :: more))
  else
    terminator
    pure (.property hinted [first])

/-- A member of a class-like. -/
def parseMember (r : Rules) : Parser Member := do
  r.attributes
  let modifiers ← r.modifiers
  let t ← peek
  match t.kind with
  | .keyword "use" => r.traitUse
  | .keyword "const" => r.constantMember
  | .keyword "case" => r.enumCase
  | .keyword "function" => r.method modifiers
  | _ =>
    let _ ← accept (.keyword "var")
    r.property

/-! ### Declarations -/

/-- A class-like of the given kind, at its keyword.  Which others may stand in its head depends on
the kind. -/
def classLike (r : Rules) (kind : DeclarationKind) : Parser Stmt := do
  let _ ← take
  let name ← word
  match kind with
  | .cls =>
    r.ancestors "extends"
    r.ancestors "implements"
  | .interface => r.ancestors "extends"
  | .enum =>
    r.returnHint
    r.ancestors "implements"
  | _ => pure ()
  let (members, _) ← r.memberBlock
  pure (.classLike kind name members)

end Rules

end MockLens.Php
