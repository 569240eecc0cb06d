/-
**Spans: byte ranges of a source text.**

Main definitions:

* `Span` — a byte range, its first byte included and its end excluded;
* `Span.contains` — the offsets a cursor may have to count as inside;
* `Span.length` — the number of bytes;
* `Span.shortest`, `Span.latest` — the earliest of the shortest elements of a list, and the last of
  those that start last, by the spans they carry.
-/

set_option autoImplicit false

namespace MockLens

/-- A byte range: `start` is its first byte and `stop` the byte after its last. -/
structure Span where
  start : Nat
  stop : Nat
  deriving DecidableEq, Repr, Inhabited

namespace Span

/-- An offset counts as inside also right after the last byte, where a cursor still belongs to the
word before it. -/
def contains (s : Span) (offset : Nat) : Bool := s.start ≤ offset && offset ≤ s.stop

/-- The number of bytes; none when the end lies before the start. -/
def length (s : Span) : Nat := s.stop - s.start

/-- A span without bytes. -/
def isEmpty (s : Span) : Bool := s.length == 0

/-- The span from the start of one span to the end of another. -/
def upTo (a b : Span) : Span := ⟨a.start, b.stop⟩

/-- The earliest element whose span is shortest. -/
def shortest {α : Type} (spanOf : α → Span) : List α → Option α
  | [] => none
  | x :: xs =>
    match shortest spanOf xs with
    | none => some x
    | some y => if (spanOf y).length < (spanOf x).length then some y else some x

/-- The last element among those whose spans start last. -/
def latest {α : Type} (spanOf : α → Span) : List α → Option α
  | [] => none
  | x :: xs =>
    match latest spanOf xs with
    | none => some x
    | some y => if (spanOf x).start ≤ (spanOf y).start then some y else some x

end Span

end MockLens
