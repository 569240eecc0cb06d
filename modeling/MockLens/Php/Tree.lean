/-
**Program trees.**

The tree of a file keeps what the analysis of calls depends on and forgets the rest: it has one
constructor for every form that is treated in a way of its own, and gathers the forms that are not
into families.  Expressions carry the span of source they were read from.

Main definitions:

* `Hint`, `Parameter`, `Identifier` — type hints, parameters, and names with their place;
* `Expr`, `Selector`, `Stmt`, `Member` — expressions, the names behind an arrow, statements, and the
  members of a class-like;
* `Expr.span` — the place of an expression.
-/
import MockLens.Declaration
import MockLens.Span

set_option autoImplicit false

namespace MockLens.Php

/-! ### Names, hints and parameters -/

/-- A name with its place in the source. -/
structure Identifier where
  text : String
  span : Span
  deriving DecidableEq, Repr

/-- A type hint. -/
inductive Hint where
  /-- The name of a class or of a built-in type, as written. -/
  | word (text : String)
  | nullable (hint : Hint)
  | union (left right : Hint)
  | intersection (left right : Hint)
  | group (hint : Hint)
  deriving DecidableEq, Repr

/-- A parameter: its variable, with the dollar sign, and its hint. -/
structure Parameter where
  variableName : String
  hint : Option Hint
  deriving DecidableEq, Repr

/-- A name taken into a file: the path, and the alias if it is given one. -/
structure ImportItem where
  path : String
  short : Option String
  deriving DecidableEq, Repr

/-- The class-like names one import statement takes in: their common beginning, if they are
grouped, and the items. -/
structure ImportGroup where
  base : Option String
  items : List ImportItem
  deriving DecidableEq, Repr

/-! ### Families of forms -/

/-- The forms whose parts are evaluated one after the other and that have no type themselves. -/
inductive Operation where
  | unary (operator : String)
  | binary (operator : String)
  | postfixed (operator : String)
  | raise
  | array
  /-- A key and a value of an array. -/
  | pair
  /-- The elements of another array. -/
  | spread
  /-- A subject followed by the arms it is compared with. -/
  | choice
  deriving DecidableEq, Repr

/-- The forms that the analysis of calls does not look into. -/
inductive Construct where
  | literal
  | magic
  | template
  | subscript
  | append
  | destructuring
  | query
  | inclusion
  | exit
  | print
  | yield
  | indirectVariable
  | partialCall
  | pipe
  | missing
  deriving DecidableEq, Repr

/-- The words that stand for a class within a class. -/
inductive ClassWord where
  | self
  | static
  | parent
  deriving DecidableEq, Repr

/-- What becomes of the values a statement computes. -/
inductive Disposal where
  | drop
  | echo
  | answer
  deriving DecidableEq, Repr

/-! ### Trees -/

mutual

/-- An expression. -/
inductive Expr where
  /-- A variable, with its dollar sign. -/
  | var (span : Span) (name : String)
  /-- A string without interpolation; it has no value if its bytes form no text. -/
  | string (span : Span) (value : Option String)
  /-- The name of a class, function or constant. -/
  | name (span : Span) (text : String)
  | classWord (span : Span) (word : ClassWord)
  | paren (span : Span) (inner : Expr)
  /-- An assignment; a plain one replaces the value of its target. -/
  | assign (span : Span) (plain : Bool) (target value : Expr)
  | conditional (span : Span) (condition yes no : Expr)
  /-- A conditional whose middle is its condition. -/
  | orElse (span : Span) (condition no : Expr)
  | operation (span : Span) (form : Operation) (parts : List Expr)
  /-- An arm of a choice. -/
  | arm (span : Span) (conditions : List Expr) (body : Expr)
  | clone (span : Span) (object : Expr)
  | new (span : Span) (cls : Expr) (arguments : List Expr)
  | newAnonymous (span : Span) (arguments : List Expr) (members : List Member)
  | closure (span : Span) (parameters : List Parameter) (captures : List String)
      (body : List Stmt)
  | arrow (span : Span) (parameters : List Parameter) (body : Expr)
  | call (span : Span) (callee : Expr) (arguments : List Expr)
  | staticCall (span : Span) (cls : Expr) (method : Selector) (arguments : List Expr)
  | methodCall (span : Span) (object : Expr) (method : Selector) (arguments : List Expr)
  | property (span : Span) (nullsafe : Bool) (object : Expr) (name : Selector)
  /-- A static property or a constant of a class. -/
  | classMember (span : Span) (cls : Expr)
  | construct (span : Span) (form : Construct) (parts : List Expr)

/-- What stands behind an arrow or a double colon. -/
inductive Selector where
  | named (name : Identifier)
  | computed (value : Expr)
  | missing

/-- A statement. -/
inductive Stmt where
  | scope (name : Option String) (body : List Stmt)
  | imports (group : ImportGroup)
  | classLike (kind : DeclarationKind) (name : Identifier) (members : List Member)
  | function (name : Identifier) (parameters : List Parameter) (body : List Stmt)
  | evaluate (disposal : Disposal) (values : List Expr)
  | block (body : List Stmt)
  | ifElse (condition : Expr) (yes no : List Stmt)
  | foreachLoop (subject : Expr) (targets : List Expr) (body : List Stmt)
  | forLoop (initial conditions increments : List Expr) (body : List Stmt)
  | whileLoop (condition : Expr) (body : List Stmt)
  | doWhileLoop (body : List Stmt) (condition : Expr)
  /-- Statements with the handlers that follow them. -/
  | guarded (body handlers : List Stmt)
  /-- A handler, with the variable it binds the exception to. -/
  | handler (variableName : Option String) (body : List Stmt)
  | switch (subject : Expr) (cases : List Stmt)
  /-- A case of a switch; the default case has no label. -/
  | case (label : List Expr) (body : List Stmt)
  /-- A statement that the analysis of calls does not look into. -/
  | inert (parts : List Expr) (body : List Stmt)

/-- A member of a class-like. -/
inductive Member where
  /-- The variables of a property declaration, with their dollar signs. -/
  | property (hint : Option Hint) (variableNames : List String)
  /-- A method; an abstract one has no statements. -/
  | method (name : Identifier) (isStatic : Bool) (parameters : List Parameter) (body : List Stmt)
  /-- A constant, a case of an enumeration or a use of traits. -/
  | other

end

namespace Expr

/-- The place of an expression. -/
def span : Expr → Span
  | var s _ => s
  | string s _ => s
  | name s _ => s
  | classWord s _ => s
  | paren s _ => s
  | assign s _ _ _ => s
  | conditional s _ _ _ => s
  | orElse s _ _ => s
  | operation s _ _ => s
  | arm s _ _ => s
  | clone s _ => s
  | new s _ _ => s
  | newAnonymous s _ _ => s
  | closure s _ _ _ => s
  | arrow s _ _ => s
  | call s _ _ => s
  | staticCall s _ _ _ => s
  | methodCall s _ _ _ => s
  | property s _ _ _ => s
  | classMember s _ => s
  | construct s _ _ => s

/-- An expression that stands for one that could not be read. -/
def isMissing : Expr → Bool
  | construct _ .missing _ => true
  | _ => false

end Expr

end MockLens.Php
