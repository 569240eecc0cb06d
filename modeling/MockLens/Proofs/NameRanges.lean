/-
**Name ranges: what the place of a declaration selects.**

Three counts meet in the place of a declaration.  The parser has the byte offset at which the name
starts; the declaration keeps a line and a column instead, and its range ends as many columns later
as the name has characters (`MockLens/Definition.lean`); an editor turns both ends back into byte
offsets.  In front of the name, and in the name itself, a character may take several bytes.  Still
the range selects the name: where the name starts there is a reader who has passed what stands
before it, a name has no line end, so the same reader has passed the name as well where the range
ends, and the offset of a reader is the number of bytes that are passed.

Main definitions:

* `Range.bytesIn` — the bytes of a text between two positions;
* `Declaration.nameRange` — the range of the name of a declaration.

Main results:

* `Php.Identifier.IsPlacedIn.bytesIn_nameRange` — the range of a name that stands in a text;
* `locations_select_names` — **the place of every declaration of a file selects its name.**
-/
import MockLens.Definition
import MockLens.Document
import MockLens.Proofs.ParsedNames
import MockLens.Proofs.Positions
import MockLens.Proofs.Utf8

set_option autoImplicit false

namespace MockLens

/-! ### Bytes -/

/-- The bytes of a text between the offsets of two positions. -/
def Range.bytesIn (content : List Char) (range : Range) : List UInt8 :=
  (Utf8.encode content).extract (range.start.offset content) (range.stop.offset content)

/-! ### The range of a name -/

/-- The range of the name of a declaration. -/
def Declaration.nameRange (d : Declaration) : Range :=
  ⟨d.position, ⟨d.position.line, d.position.character + d.name.toList.length⟩⟩

theorem Declaration.location?_eq (d : Declaration) :
    d.location? = (Uri.normalize? d.uri).map (Location.mk · d.nameRange) := rfl

/-- **The range of a name that stands in a text selects the name.** -/
theorem Php.Identifier.IsPlacedIn.bytesIn_nameRange {content : List Char} {name : Php.Identifier}
    (h : name.IsPlacedIn content) {uri : String} {d : Declaration}
    (hd : Symbols.IsOfName uri content name d) :
    d.nameRange.bytesIn content = Utf8.encode d.name.toList := by
  obtain ⟨before, after, hcontent, hstart⟩ := h.stands
  have hbefore : before <+: content := by
    rw [hcontent, List.append_assoc]
    exact List.prefix_append _ _
  have hbehind : before ++ name.text.toList <+: content := by
    rw [hcontent]
    exact List.prefix_append _ _
  -- the range lies between two readers: one in front of the name, and one behind it
  have hfirst : d.nameRange.start = Position.behind ⟨0, 0⟩ before := by
    rw [Declaration.nameRange, hd.start, hstart, Position.ofOffset_byteLength hbefore]
  have hlast : d.nameRange.stop = Position.behind ⟨0, 0⟩ (before ++ name.text.toList) := by
    rw [Position.behind_append, Position.behind_of_notMem h.bare.2, ← hfirst, ← hd.text]
    rfl
  rw [Range.bytesIn, hfirst, hlast, Position.offset_behind hbefore,
    Position.offset_behind hbehind, hd.text]
  rw [hcontent]
  exact Utf8.extract_encode before _ after

/-- **The place of every declaration of a file selects its name.**  A declaration has a place if the
file is named by a URI. -/
theorem locations_select_names (uri content : String) :
    ∀ d ∈ declarationsOfText uri content, ∃ range : Range,
      d.location? = (Uri.normalize? uri).map (Location.mk · range) ∧
        range.bytesIn content.toList = Utf8.encode d.name.toList ∧
        range.start.line = range.stop.line := by
  intro d hd
  obtain ⟨c, hc, name, hname, hdeclared⟩ := Symbols.exists_name hd
  have hplaced := Php.isPlacedIn_of_mem_classLikesOf hc name hname
  refine ⟨d.nameRange, ?_, hplaced.bytesIn_nameRange hdeclared, rfl⟩
  rw [d.location?_eq, hdeclared.file]

/-- A name of wide characters behind a wide character. -/
theorem locations_select_names_wide_characters :
    let text := "<?php /* é */ class Größe {}"
    let d : Declaration := ⟨.cls, "Größe", "Größe", none, false, "file:///t.php", ⟨0, 20⟩⟩
    d ∈ declarationsOfText "file:///t.php" text ∧ ∃ range : Range,
      d.location? = (Uri.normalize? "file:///t.php").map (Location.mk · range) ∧
        range.bytesIn text.toList = Utf8.encode d.name.toList ∧
        range.start.line = range.stop.line := by
  intro text d
  have hd : d ∈ declarationsOfText "file:///t.php" text := by decide +kernel
  exact ⟨hd, locations_select_names "file:///t.php" text d hd⟩

/-- Columns count characters and offsets count bytes, before the name and in it. -/
example :
    let text := "<?php /* é */ class Größe {}"
    (declarationsOfText "file:///t.php" text).map Declaration.nameRange
        = [⟨⟨0, 20⟩, ⟨0, 25⟩⟩] ∧
      Position.offset text.toList ⟨0, 20⟩ = 21 ∧ Position.offset text.toList ⟨0, 25⟩ = 28 := by
  decide +kernel

end MockLens
