/-
**Canonical keys: which virtual types their texts tell, and which texts are keys.**

The text of a virtual type is put together by `VirtualType.toKey` and taken apart again by
`VirtualType.parse` (`MockLens/Key.lean`), and the two are not each other's inverse: a `~` in the
signature of a mock moves into its literal, and a `|` in a member of a union makes two members of
it.  The virtual types that do come back are described here by what they hold.  They are exactly
those that are ever read from a text, so that a text that was read and written once is stable.

Whether a text can be read is told by its bytes.  A tag is four bytes of ASCII, and a text whose
bytes begin with those begins with the characters of the tag, because no character of UTF-8 shares a
byte with another one.

Main definitions:

* `VirtualType.IsCanonical` — the virtual types that their texts tell exactly;
* `VirtualType.rewritten` — a text, read and written again.

Main results:

* `VirtualType.parse_toKey_eq_some_iff` — the virtual types that come back are the canonical ones;
* `VirtualType.isCanonical_of_parse` — whatever is read is canonical;
* `Tag.ofKey_eq_some_iff` — the four bytes that decide on the tag;
* `VirtualType.keys_characterised` — **all of this, of every virtual type and every text.**
-/
import MockLens.Proofs.Keys
import MockLens.Proofs.Utf8

set_option autoImplicit false

namespace MockLens

/-! ### Tags as bytes -/

namespace Tag

theorem length_encode_text (tag : Tag) : (Utf8.encode tag.text.toList).length = 4 := by
  cases tag <;> rfl

/-- **The first four bytes decide on the tag.** -/
theorem ofKey_eq_some_iff {key : String} {tag : Tag} :
    ofKey key = some tag ↔
      (Utf8.encode key.toList).take 4 = Utf8.encode tag.text.toList := by
  constructor
  · intro h
    obtain ⟨cut, hcut, rfl⟩ := Option.map_eq_some_iff.1 h
    rw [cut?_eq_some_iff.1 hcut, Utf8.encode_append, List.take_left' (length_encode_text _)]
  · intro h
    have hbytes : Utf8.encode key.toList
        = Utf8.encode tag.text.toList ++ (Utf8.encode key.toList).drop 4 := by
      rw [← h, List.take_append_drop]
    obtain ⟨payload, hkey, -⟩ := Utf8.exists_of_encode_eq_append hbytes
    rw [ofKey, cut?_eq_some_iff.2 hkey]
    rfl

/-- A text with a tag is cut behind the fourth byte. -/
theorem isValid_of_ofKey {key : String} {tag : Tag} (h : ofKey key = some tag) :
    (⟨4⟩ : String.Pos.Raw).IsValid key := by
  obtain ⟨cut, hcut, rfl⟩ := Option.map_eq_some_iff.1 h
  refine String.Pos.Raw.isValid_iff_exists_append.2 ⟨cut.1.text, String.ofList cut.2, ?_, ?_⟩
  · rw [← String.toList_inj, String.toList_append, String.toList_ofList]
    exact cut?_eq_some_iff.1 hcut
  · cases cut.1 <;> rfl

end Tag

namespace VirtualType

/-! ### Canonical virtual types -/

/-- A virtual type that its text tells exactly: the signature of a mock holds no `~`, and the
members of a union are not empty and hold no `|`. -/
def IsCanonical : VirtualType → Prop
  | mock signature _ => '~' ∉ signature.toList
  | verification ms => ∀ m ∈ ms, m ≠ "" ∧ '|' ∉ m.toList
  | stub ms => ∀ m ∈ ms, m ≠ "" ∧ '|' ∉ m.toList
  | stubbedMethod => True

/-- The members of a union are its segments exactly when none is empty and none holds a
separator. -/
theorem flatMap_splitNonEmpty_eq_self_iff {ms : List String} :
    ms.flatMap (Text.splitNonEmpty '|') = ms ↔ ∀ m ∈ ms, m ≠ "" ∧ '|' ∉ m.toList := by
  constructor
  · intro h m hm
    rw [← h] at hm
    obtain ⟨member, -, hsegment⟩ := List.mem_flatMap.1 hm
    exact Text.ne_empty_and_notMem_of_mem_splitNonEmpty hsegment
  · intro h
    have hsingle : ∀ m ∈ ms, Text.splitNonEmpty '|' m = [m] := by
      intro m hm
      obtain ⟨hne, hbar⟩ := h m hm
      rw [Text.splitNonEmpty_of_notMem hbar, if_neg hne]
    rw [List.flatMap_congr hsingle, List.flatMap_singleton']

/-- **The virtual types that come back are the canonical ones.** -/
theorem parse_toKey_eq_some_iff {v : VirtualType} : parse v.toKey = some v ↔ v.IsCanonical := by
  cases v with
  | mock signature className =>
      refine ⟨fun h => ?_, fun h => parse_toKey_mock h className⟩
      rw [toKey, tag, parse_text_append] at h
      obtain ⟨parts, hcut, hparts⟩ := Option.map_eq_some_iff.1 h
      obtain ⟨rfl, rfl⟩ : parts.1 = signature ∧ parts.2 = className := by simpa using hparts
      exact (Text.eq_of_cutFirst hcut).2
  | verification ms =>
      rw [parse_toKey_verification, Option.some_inj, verification.injEq]
      exact flatMap_splitNonEmpty_eq_self_iff
  | stub ms =>
      rw [parse_toKey_stub, Option.some_inj, stub.injEq]
      exact flatMap_splitNonEmpty_eq_self_iff
  | stubbedMethod => exact iff_of_true parse_toKey_stubbedMethod trivial

theorem isCanonical_of_ofPayload {tag : Tag} {payload : List Char} {v : VirtualType}
    (h : ofPayload tag payload = some v) : v.IsCanonical := by
  cases tag with
  | mock =>
      obtain ⟨parts, hcut, rfl⟩ := Option.map_eq_some_iff.1 h
      exact (Text.eq_of_cutFirst hcut).2
  | verification =>
      obtain rfl := Option.some.inj h
      exact fun m hm => Text.ne_empty_and_notMem_of_mem_splitNonEmpty hm
  | stub =>
      obtain rfl := Option.some.inj h
      exact fun m hm => Text.ne_empty_and_notMem_of_mem_splitNonEmpty hm
  | stubbedMethod =>
      obtain rfl := Option.some.inj h
      trivial

/-- **Whatever is read is canonical.** -/
theorem isCanonical_of_parse {key : String} {v : VirtualType} (h : parse key = some v) :
    v.IsCanonical := by
  obtain ⟨cut, -, hpayload⟩ := Option.bind_eq_some_iff.1 h
  exact isCanonical_of_ofPayload hpayload

/-- A text, read and written again. -/
def rewritten (key : String) : Option String := (parse key).map toKey

theorem rewritten_of_rewritten {key text : String} (h : rewritten key = some text) :
    rewritten text = some text := by
  obtain ⟨v, hparse, rfl⟩ := Option.map_eq_some_iff.1 h
  rw [rewritten, parse_toKey_eq_some_iff.2 (isCanonical_of_parse hparse)]
  rfl

/-! ### Texts that are keys -/

/-- A payload can be read, save that of a mock without a `~`. -/
theorem map_tag_ofPayload {tag : Tag} {payload : List Char} :
    (ofPayload tag payload).map VirtualType.tag
      = if tag = .mock → '~' ∈ payload then some tag else none := by
  cases tag with
  | mock =>
      have hcut := Text.isSome_cutFirst_iff (c := '~') (s := String.ofList payload)
      rw [String.toList_ofList] at hcut
      by_cases hmem : '~' ∈ payload
      · obtain ⟨parts, hparts⟩ := Option.isSome_iff_exists.1 (hcut.2 hmem)
        simp [ofPayload, hparts, hmem, VirtualType.tag]
      · have hnone : Text.cutFirst '~' (String.ofList payload) = none :=
          Option.not_isSome_iff_eq_none.1 fun hsome => hmem (hcut.1 hsome)
        simp [ofPayload, hnone, hmem]
  | verification => simp [ofPayload, VirtualType.tag]
  | stub => simp [ofPayload, VirtualType.tag]
  | stubbedMethod => simp [ofPayload, VirtualType.tag]

/-- Which texts can be read, and the kind of what is read: the first four bytes decide, and for a
mock a `~` behind them. -/
theorem map_tag_parse_eq_some_iff {key : String} {tag : Tag} :
    (parse key).map VirtualType.tag = some tag ↔
      (Utf8.encode key.toList).take 4 = Utf8.encode tag.text.toList ∧
        (tag = .mock → 0x7E ∈ (Utf8.encode key.toList).drop 4) := by
  rw [← Tag.ofKey_eq_some_iff, Tag.ofKey, parse]
  cases hcut : Tag.cut? key.toList with
  | none => simp
  | some cut =>
      obtain ⟨found, payload⟩ := cut
      have hbytes : (Utf8.encode key.toList).drop 4 = Utf8.encode payload := by
        rw [Tag.cut?_eq_some_iff.1 hcut, Utf8.encode_append,
          List.drop_left' (Tag.length_encode_text _)]
      have htilde : (0x7E : UInt8) ∈ Utf8.encode payload ↔ '~' ∈ payload :=
        Utf8.mem_encode_iff (by decide) (by decide)
      rw [Option.bind_some, map_tag_ofPayload, hbytes, htilde, Option.map_some]
      by_cases hread : found = .mock → '~' ∈ payload
      · rw [if_pos hread, Option.some_inj]
        constructor
        · rintro rfl
          exact ⟨rfl, hread⟩
        · exact And.left
      · rw [if_neg hread, Option.some_inj]
        refine iff_of_false (by simp) ?_
        rintro ⟨rfl, hmem⟩
        exact hread hmem

/-- **How keys and virtual types belong together.**  A virtual type is read back from its text
exactly when it is canonical; a union always comes back as the non-empty segments of its members;
what is read from any text is canonical, so that a text read and written once stays as it is; the
first four bytes of a text decide whether it can be read, for a mock together with a `~` behind
them; and nothing is read from a text whose fourth byte does not end a character. -/
theorem keys_characterised :
    (∀ v, parse v.toKey = some v ↔ v.IsCanonical) ∧
    (∀ ms, parse (toKey (verification ms))
        = some (verification (ms.flatMap (Text.splitNonEmpty '|'))) ∧
      parse (toKey (stub ms)) = some (stub (ms.flatMap (Text.splitNonEmpty '|')))) ∧
    (∀ key v, parse key = some v → v.IsCanonical) ∧
    (∀ key text, rewritten key = some text → rewritten text = some text) ∧
    (∀ key tag, (parse key).map VirtualType.tag = some tag ↔
      (Utf8.encode key.toList).take 4 = Utf8.encode tag.text.toList ∧
        (tag = .mock → 0x7E ∈ (Utf8.encode key.toList).drop 4)) ∧
    ∀ key, ¬ (⟨4⟩ : String.Pos.Raw).IsValid key → parse key = none := by
  refine ⟨fun v => parse_toKey_eq_some_iff, fun ms => ⟨?_, ?_⟩, fun key v => isCanonical_of_parse,
    fun key text => rewritten_of_rewritten, fun key tag => map_tag_parse_eq_some_iff,
    fun key hinside => ?_⟩
  · exact parse_toKey_verification ms
  · exact parse_toKey_stub ms
  · by_contra hsome
    obtain ⟨v, hparse⟩ := Option.ne_none_iff_exists'.1 hsome
    have hbytes := map_tag_parse_eq_some_iff.1 (congrArg (Option.map VirtualType.tag) hparse)
    exact hinside (Tag.isValid_of_ofKey (Tag.ofKey_eq_some_iff.2 hbytes.1))

end VirtualType

end MockLens
