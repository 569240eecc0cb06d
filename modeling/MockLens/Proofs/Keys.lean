/-
**Reading keys back.**

A key is a tag with a payload (`MockLens/Key.lean`).  This module says what comes of reading the
text of a virtual type: the tag is always found again, a mock comes back as it was unless its
signature holds a `~`, and a union comes back as the non-empty segments of its members.

Main results:

* `Tag.cut?_eq_some_iff` — a text has a tag exactly when it begins with the text of one;
* `VirtualType.parse_toKey_mock`, `VirtualType.parse_toKey_verification`,
  `VirtualType.parse_toKey_stub`, `VirtualType.parse_toKey_stubbedMethod` — the four kinds of key,
  read back;
* `VirtualType.map_tag_parse_toKey` — every key can be read, with the kind it was written with.
-/
import MockLens.Key
import MockLens.Proofs.Text

set_option autoImplicit false

namespace MockLens

/-! ### Tags -/

namespace Tag

/-- **A text has a tag exactly when it begins with the text of one.** -/
theorem cut?_eq_some_iff {cs payload : List Char} {tag : Tag} :
    cut? cs = some (tag, payload) ↔ cs = tag.text.toList ++ payload := by
  constructor
  · intro h
    unfold cut? at h
    split at h <;> simp_all [text]
    all_goals (obtain ⟨rfl, rfl⟩ := h; rfl)
  · rintro rfl
    cases tag <;> rfl

theorem ofKey_text_append (tag : Tag) (payload : String) :
    ofKey (tag.text ++ payload) = some tag := by
  rw [ofKey, String.toList_append, cut?_eq_some_iff.2 rfl]
  rfl

/-- Only a text that begins with `<` has a tag. -/
theorem ofKey_eq_none_of_notMem {type : String} (h : '<' ∉ type.toList) : ofKey type = none := by
  cases hcut : cut? type.toList with
  | none => simp [ofKey, hcut]
  | some cut =>
      obtain ⟨tag, payload⟩ := cut
      have htext := cut?_eq_some_iff.1 hcut
      have hmem : '<' ∈ type.toList := by
        rw [htext]
        cases tag <;> simp [text]
      exact absurd hmem h

end Tag

/-! ### The four kinds of key -/

namespace VirtualType

theorem parse_text_append (tag : Tag) (payload : String) :
    parse (tag.text ++ payload) = ofPayload tag payload.toList := by
  rw [parse, String.toList_append, Tag.cut?_eq_some_iff.2 rfl]
  rfl

/-- A mock comes back as it was, whatever characters its literal has. -/
theorem parse_toKey_mock {signature : String} (h : '~' ∉ signature.toList) (className : String) :
    parse (toKey (mock signature className)) = some (mock signature className) := by
  have hcut := Text.cutFirst_append h className
  rw [toKey, tag, parse_text_append]
  simp only [ofPayload, payload, String.ofList_toList]
  rw [show ("~" : String) = String.singleton '~' from rfl, hcut]
  rfl

/-- A verification comes back with the non-empty segments of its members. -/
theorem parse_toKey_verification (members : List String) :
    parse (toKey (verification members))
      = some (verification (members.flatMap (Text.splitNonEmpty '|'))) := by
  rw [toKey, tag, parse_text_append]
  simp only [ofPayload, payload, String.ofList_toList]
  rw [show ("|" : String) = String.singleton '|' from rfl, Text.splitNonEmpty_join]

/-- A stub comes back with the non-empty segments of its members. -/
theorem parse_toKey_stub (members : List String) :
    parse (toKey (stub members)) = some (stub (members.flatMap (Text.splitNonEmpty '|'))) := by
  rw [toKey, tag, parse_text_append]
  simp only [ofPayload, payload, String.ofList_toList]
  rw [show ("|" : String) = String.singleton '|' from rfl, Text.splitNonEmpty_join]

theorem parse_toKey_stubbedMethod : parse (toKey stubbedMethod) = some stubbedMethod := by decide

/-- Every key can be read, and what is read is of the kind that was written. -/
theorem map_tag_parse_toKey (v : VirtualType) : (parse v.toKey).map tag = some v.tag := by
  rw [toKey, parse_text_append]
  cases v with
  | mock signature className =>
      have hmem : '~' ∈ (payload (mock signature className)).toList := by simp [payload]
      obtain ⟨parts, hcut⟩ := Option.isSome_iff_exists.1 (Text.isSome_cutFirst_iff.2 hmem)
      simp [ofPayload, tag, hcut]
  | verification ms => rfl
  | stub ms => rfl
  | stubbedMethod => rfl

/-- What can be read begins with a tag. -/
theorem exists_tag_of_isSome_parse {key : String} (h : (parse key).isSome = true) :
    ∃ (tag : Tag) (payload : String), key = tag.text ++ payload := by
  rw [parse, Option.isSome_bind] at h
  cases hcut : Tag.cut? key.toList with
  | none => simp [hcut] at h
  | some cut =>
      refine ⟨cut.1, String.ofList cut.2, String.toList_inj.1 ?_⟩
      rw [Tag.cut?_eq_some_iff.1 hcut, String.toList_append, String.toList_ofList]

/-- What can be read is of the kind that its tag says. -/
theorem map_tag_parse {key : String} (h : (parse key).isSome = true) :
    (parse key).map tag = Tag.ofKey key := by
  obtain ⟨tag, payload, rfl⟩ := exists_tag_of_isSome_parse h
  rw [parse_text_append] at h ⊢
  rw [Tag.ofKey_text_append]
  cases tag with
  | mock =>
      obtain ⟨v, hv⟩ := Option.isSome_iff_exists.1 h
      obtain ⟨parts, -, rfl⟩ := Option.map_eq_some_iff.1 hv
      rw [hv]
      rfl
  | _ => rfl

end VirtualType

end MockLens
