/-
**Positions: lines and columns of a text, and their byte offsets.**

An editor addresses a text by line and column, counting from zero and counting a column for every
character; the analysis addresses it by byte offset.  The two maps here convert between them and
clamp whatever lies outside the text.

Main definitions:

* `Position`, `Range` — a place in a text, and a stretch between two places;
* `Position.offset` — the byte offset of a position;
* `Position.ofOffset` — the position of a byte offset.
-/
import MockLens.Text

set_option autoImplicit false

namespace MockLens

/-- A place in a text: line and column, both counted from zero. -/
structure Position where
  line : Nat
  character : Nat
  deriving DecidableEq, Repr

/-- The stretch of a text between two positions. -/
structure Range where
  start : Position
  stop : Position
  deriving DecidableEq, Repr

namespace Position

/-- Walks to column `character` of the line that is `line` line ends away; `at_` is the byte offset
reached.  A line that is too short stops the walk at its end, and so does the end of the text. -/
def walk : Nat → Nat → Nat → List Char → Nat
  | at_, _, _, [] => at_
  | at_, 0, character, c :: cs =>
    if character = 0 ∨ c = '\n' then at_ else walk (at_ + c.utf8Size) 0 (character - 1) cs
  | at_, line + 1, character, c :: cs =>
    walk (at_ + c.utf8Size) (if c = '\n' then line else line + 1) character cs

/-- The byte offset of a position: a column past the end of its line stands for the line's end, and
a line past the last one for the end of the text. -/
def offset (content : List Char) (p : Position) : Nat := walk 0 p.line p.character content

/-- Advances `here` over the characters that start before byte offset `target`; the next character
starts at byte `at_`. -/
def scan (target : Nat) : Nat → Position → List Char → Position
  | _, here, [] => here
  | at_, here, c :: cs =>
    if at_ < target then
      scan target (at_ + c.utf8Size)
        (if c = '\n' then ⟨here.line + 1, 0⟩ else ⟨here.line, here.character + 1⟩) cs
    else here

/-- The position of a byte offset: an offset past the end stands for the end, and one inside a
character for the place after it. -/
def ofOffset (content : List Char) (target : Nat) : Position :=
  scan target 0 ⟨0, 0⟩ content

end Position

end MockLens
