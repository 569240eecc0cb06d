/-
**Names of hosts.**

A name consists of labels with dots between them.  A label with characters other than ASCII also has
a form in ASCII, which starts with a mark of its own; a name may hold both.

Main definitions:

* `Uri.decodeLabel?` — the characters of a label, also of one in ASCII form;
* `Uri.isLabel` — a label is well formed;
* `Uri.asciiName?` — a name in ASCII.
-/
import MockLens.Text
import MockLens.Text.Composition
import MockLens.Text.Direction
import MockLens.Text.Joining
import MockLens.Uri.Mapping
import MockLens.Uri.Punycode

set_option autoImplicit false

namespace MockLens

namespace Uri

/-! ### Labels -/

/-- The mark of the ASCII form of a label. -/
def asciiMark : List Char := ['x', 'n', '-', '-']

/-- All characters are ASCII. -/
def isAscii (cs : List Char) : Bool := cs.all fun c => c.toNat < 128

/-- The characters of a label in ASCII form, behind its mark.  At least one of them is not ASCII,
all stand for themselves, and they are composed. -/
def decodeMarked? (cs : List Char) : Option (List Char) :=
  match if isAscii cs && cs.getLast? != some '-' then Punycode.decode? cs else none with
  | some label =>
    if !isAscii label && label.all (fun c => mapped? c == some [c]) &&
        Text.composed label == label then
      some label
    else none
  | none => none

/-- The characters of a label. -/
def decodeLabel? (label : List Char) : Option (List Char) :=
  match Text.dropPrefixChars? asciiMark label with
  | some rest => decodeMarked? rest
  | none => some label

/-- The class of the marks that take the vowel from the letter before them. -/
def vowelKiller : Nat := 9

/-- A joiner may stand behind a mark that takes the vowel from a letter; one that keeps letters
apart also between two that would be joined. -/
def allowsJoiner (before : List Char) (c : Char) (after : List Char) : Bool :=
  before.head?.any (fun last => Text.combiningClass last == vowelKiller) ||
    (c == '\u200c' && Text.joinsAcross before after)

/-- The joiners in a label stand where they may; `before` is what stands before them, the last
character first. -/
def placesJoiners (before : List Char) : List Char → Bool
  | [] => true
  | c :: cs => (!joiners.contains c || allowsJoiner before c cs) && placesJoiners (c :: before) cs

/-- A label does not start with a mark, and its joiners stand where they may. -/
def isLabel (label : List Char) : Bool :=
  !label.head?.any Text.isMark && placesJoiners [] label

/-! ### Names -/

/-- The ASCII form of a label. -/
def asciiLabel (label : List Char) : List Char :=
  if isAscii label then label else asciiMark ++ Punycode.encode label

/-- A name in ASCII.  If any of its labels runs to the left, all must have a direction. -/
def asciiName? (cs : List Char) : Option (List Char) := do
  let name ← cs.mapM mapped?
  let labels := Text.splitChars '.' (Text.composed name.flatten)
  let decoded ← labels.mapM decodeLabel?
  let bothDirections := decoded.any fun label => label.any Text.runsLeft
  if decoded.all isLabel && (!bothDirections || decoded.all Text.hasDirection) then
    some (['.'].intercalate (labels.map asciiLabel))
  else none

end Uri

end MockLens
