/-
**Hover: what is known of the expression at a cursor.**

Main definitions:

* `Analysis.keyAt` — the key at an offset and the span it belongs to;
* `Hover`, `Index.hover` — the text shown for it, and the stretch it is shown for.
-/
import MockLens.Analysis
import MockLens.Resolution
import MockLens.Text.Position

set_option autoImplicit false

namespace MockLens

/-! ### The key at an offset -/

namespace Analysis

/-- The call with a key whose method name or literal is at an offset, with the span of the literal
or else of the name. -/
def callKeyAt (a : Analysis) (offset : Nat) : Option (String × Span) :=
  let onLiteral (c : Call) : Bool := c.literalSpan.any fun s => s.contains offset
  match a.calls.toList.find? fun c =>
      c.key.isSome && (c.nameSpan.contains offset || onLiteral c) with
  | some c =>
    c.key.map fun key => (key, if onLiteral c then c.literalSpan.getD c.nameSpan else c.nameSpan)
  | none => none

/-- The innermost typed expression around an offset among those with a key, with its first key. -/
def typedKeyAt (a : Analysis) (offset : Nat) : Option (String × Span) :=
  let around :=
    a.typed.toList.filter fun t => t.span.contains offset && t.types.any isKey
  (Span.shortest TypedExpr.span around).bind fun t =>
    (t.types.find? isKey).map fun key => (key, t.span)

/-- The key at an offset: that of a call, and otherwise that of the typed expression around it. -/
def keyAt (a : Analysis) (offset : Nat) : Option (String × Span) :=
  (a.callKeyAt offset).or (a.typedKeyAt offset)

end Analysis

/-! ### The text -/

/-- A text shown for a stretch of a document. -/
structure Hover where
  markdown : String
  range : Range
  deriving DecidableEq, Repr

/-- The text shown for a key that stands for the given declarations. -/
def hoverText (key : String) (resolved : List Declaration) : String :=
  let label := ((Tag.ofKey key).map Tag.label).getD "virtual type"
  let head := "Phake " ++ label ++ ": \x60" ++ key ++ "\x60"
  match resolved with
  | [] => head
  | _ =>
    head ++ "\n" ++
      String.join (resolved.map fun d => "\n- " ++ d.kind.keyword ++ " \x60" ++ d.fqn ++ "\x60")

/-- What is shown at an offset of a text. -/
def Index.hover (ix : Index) (binder : String) (a : Analysis) (content : List Char)
    (offset : Nat) : Option Hover :=
  (a.keyAt offset).map fun (key, span) =>
    ⟨hoverText key (ix.resolveKey binder key),
      ⟨Position.ofOffset content span.start, Position.ofOffset content span.stop⟩⟩

end MockLens
