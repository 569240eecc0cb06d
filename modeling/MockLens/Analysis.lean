/-
**The records of an analysis.**

The analysis of a file leaves two lists in the order in which the source is evaluated: the calls,
and the expressions with candidate types.  The queries of an editor are answered from them.

Main definitions:

* `Call`, `TypedExpr`, `Analysis` — the records;
* `Analysis.virtualCalls` — the calls that have a key;
* `Analysis.callAtName`, `Analysis.typedEndingAt`, `Analysis.typedAt` — what is at an offset.
-/
import MockLens.Span

set_option autoImplicit false

namespace MockLens

/-- A method call. -/
structure Call where
  /-- The whole call, from its receiver to its closing parenthesis. -/
  span : Span
  /-- The name of the method. -/
  nameSpan : Span
  method : String
  signature : String
  /-- The contents of the first argument, if that is a string literal. -/
  literalSpan : Option Span
  /-- The candidate types of the receiver of a member call. -/
  receiverTypes : List String
  /-- The key of the call, if it has a virtual type. -/
  key : Option String
  deriving DecidableEq, Repr

/-- An expression with its candidate types, of which there is at least one. -/
structure TypedExpr where
  span : Span
  types : List String
  deriving DecidableEq, Repr

/-- The calls and the typed expressions of a file. -/
structure Analysis where
  calls : Array Call := #[]
  typed : Array TypedExpr := #[]
  deriving DecidableEq, Repr

namespace Analysis

/-- The calls that have a key. -/
def virtualCalls (a : Analysis) : List Call := a.calls.toList.filter (fun c => c.key.isSome)

/-- The first call whose method name is at an offset. -/
def callAtName (a : Analysis) (offset : Nat) : Option Call :=
  a.calls.toList.find? (fun c => c.nameSpan.contains offset)

/-- The innermost typed expression that ends at an offset. -/
def typedEndingAt (a : Analysis) (stop : Nat) : Option TypedExpr :=
  Span.shortest TypedExpr.span (a.typed.toList.filter (fun t => t.span.stop == stop))

/-- The innermost typed expression around an offset. -/
def typedAt (a : Analysis) (offset : Nat) : Option TypedExpr :=
  Span.shortest TypedExpr.span (a.typed.toList.filter (fun t => t.span.contains offset))

end Analysis

end MockLens
