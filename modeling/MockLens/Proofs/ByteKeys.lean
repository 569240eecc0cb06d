/-
**Keys, read by their bytes.**

A key is read by its first four bytes, by the first byte of a `~` and, where it is embedded in a
member of a union, by the first place at which the bytes of a tag occur; what lies between the
offsets found is cut out of the text.  No character of UTF-8 contains the bytes of another one, so
each of these offsets is one between two characters, and what is read is what the characters of the
key say (`MockLens/Key.lean`, `MockLens/Resolution.lean`).

How bytes are searched for is left open: all that counts is that the first place is found.

Main definitions:

* `Bytes.Search`, `Bytes.Search.FindsFirst` — a search for bytes, and what is asked of it;
* `Bytes.tagOf`, `Bytes.parse` — the tag of a key, and what the key stands for;
* `Bytes.resolveMember`, `Bytes.resolveTypes` — the declarations that a member of a union and a list
  of candidate types stand for.

Main results:

* `Bytes.prefix_drop_encode_iff` — where the bytes of one text occur in those of another one;
* `Bytes.parse_encode`, `Bytes.resolveMember_encode`, `Bytes.resolveTypes_eq` — **no reading of a
  key goes wrong, and each finds what the characters say.**
-/
import MockLens.Proofs.Bytes
import MockLens.Proofs.Keys
import MockLens.Resolution

set_option autoImplicit false

namespace MockLens

namespace Bytes

open Text (byteLength)
open Utf8 (encode)

/-! ### Searching -/

/-- A search for bytes: the offset of a byte, and that of several bytes in a row. -/
structure Search where
  byte : UInt8 → List UInt8 → Option Nat
  row : List UInt8 → List UInt8 → Option Nat

/-- A search finds the first place, and one whenever there is one. -/
structure Search.FindsFirst (search : Search) : Prop where
  byte_iff : ∀ b bytes n, search.byte b bytes = some n ↔
    bytes[n]? = some b ∧ ∀ m < n, bytes[m]? ≠ some b
  row_iff : ∀ mark bytes n, search.row mark bytes = some n ↔
    mark <+: bytes.drop n ∧ ∀ m < n, ¬ mark <+: bytes.drop m

namespace Search

/-- Tries one offset after the other. -/
def inOrder : Search where
  byte b bytes := (List.range bytes.length).find? fun n => bytes[n]? == some b
  row mark bytes := (List.range (bytes.length + 1)).find? fun n => mark.isPrefixOf (bytes.drop n)

theorem findsFirst_inOrder : inOrder.FindsFirst where
  byte_iff b bytes n := by
    simp only [inOrder, List.find?_range_eq_some, beq_iff_eq, List.mem_range, Bool.not_eq_true',
      beq_eq_false_iff_ne]
    exact ⟨fun h => ⟨h.1, h.2.2⟩, fun h => ⟨h.1, (List.getElem?_eq_some_iff.1 h.1).1, h.2⟩⟩
  row_iff mark bytes n := by
    simp only [inOrder, List.find?_range_eq_some, List.isPrefixOf_iff_prefix, List.mem_range,
      Bool.not_eq_true', ← Bool.not_eq_true]
    refine ⟨fun h => ⟨h.1, h.2.2⟩, fun h => ⟨h.1, Nat.lt_succ_of_le ?_, h.2⟩⟩
    -- behind the end only nothing occurs, and that occurs at the beginning already
    by_contra hbeyond
    have hend := h.1
    rw [List.drop_eq_nil_of_le (by omega), List.prefix_nil] at hend
    exact h.2 0 (by omega) (hend ▸ List.nil_prefix)

end Search

/-- Where the bytes of one text occur among those of another one. -/
theorem prefix_drop_encode_iff {mark text : List Char} (hne : mark ≠ []) {n : Nat} :
    encode mark <+: (encode text).drop n ↔
      ∃ front rest, text = front ++ mark ++ rest ∧ n = byteLength front := by
  constructor
  · rintro ⟨more, hmore⟩
    obtain ⟨c, mark, rfl⟩ := List.exists_cons_of_ne_nil hne
    obtain ⟨front, back, rfl, rfl⟩ := isBetween_iff.1 (isBetween_of_drop_eq hmore.symm)
    rw [Utf8.encode_append, List.drop_left' (Utf8.length_encode front)] at hmore
    obtain ⟨rest, rfl, -⟩ := Utf8.exists_of_encode_eq_append hmore.symm
    exact ⟨front, rest, by simp, rfl⟩
  · rintro ⟨front, rest, rfl, rfl⟩
    rw [List.append_assoc, Utf8.encode_append, List.drop_left' (Utf8.length_encode front),
      Utf8.encode_append]
    exact List.prefix_append ..

namespace Search

variable {search : Search} (h : search.FindsFirst)

include h

/-- The byte of a character of ASCII is found where the character is. -/
theorem FindsFirst.byte_encode {c : Char} (hc : c.toNat < 128) {front : List Char}
    (hfront : c ∉ front) (rest : List Char) :
    search.byte (UInt8.ofNat c.toNat) (encode (front ++ c :: rest)) = some (byteLength front) := by
  have hbytes : encode (c :: rest) = UInt8.ofNat c.toNat :: encode rest := by
    rw [Utf8.encode_cons, String.utf8EncodeChar_eq_singleton (utf8Size_eq_one hc)]
    rfl
  rw [h.byte_iff, Utf8.encode_append, hbytes, ← Utf8.length_encode]
  refine ⟨by simp, fun m hm hbyte => hfront ?_⟩
  rw [List.getElem?_append_left hm] at hbyte
  exact (Utf8.mem_encode_iff hc (Utf8.toNat_byte (by omega))).1 (List.mem_of_getElem? hbyte)

theorem FindsFirst.byte_encode_of_notMem {c : Char} (hc : c.toNat < 128) {text : List Char}
    (htext : c ∉ text) : search.byte (UInt8.ofNat c.toNat) (encode text) = none := by
  rw [Option.eq_none_iff_forall_ne_some]
  intro n hn
  have hbyte := ((h.byte_iff ..).1 hn).1
  exact htext ((Utf8.mem_encode_iff hc (Utf8.toNat_byte (by omega))).1 (List.mem_of_getElem? hbyte))

/-- The bytes of a text are found where its characters are. -/
theorem FindsFirst.row_encode {mark text found : List Char} (hne : mark ≠ [])
    (hfound : Text.findSubChars mark text = some found) :
    ∃ front, text = front ++ found ∧
      search.row (encode mark) (encode text) = some (byteLength front) := by
  obtain ⟨front, htext, ⟨rest, hrest⟩, hfirst⟩ := Text.exists_of_findSubChars hfound
  refine ⟨front, htext, (h.row_iff ..).2 ⟨?_, fun m hm hoccurs => ?_⟩⟩
  · exact (prefix_drop_encode_iff hne).2
      ⟨front, rest, by rw [htext, ← hrest, List.append_assoc], rfl⟩
  · obtain ⟨other, more, hother, rfl⟩ := (prefix_drop_encode_iff hne).1 hoccurs
    obtain ⟨between, rfl⟩ := hfirst other more hother
    rw [Text.byteLength_append] at hm
    omega

theorem FindsFirst.row_encode_of_findSubChars {mark text : List Char} (hne : mark ≠ [])
    (hnone : Text.findSubChars mark text = none) :
    search.row (encode mark) (encode text) = none := by
  rw [Option.eq_none_iff_forall_ne_some]
  intro n hn
  obtain ⟨front, rest, rfl, -⟩ := (prefix_drop_encode_iff hne).1 ((h.row_iff ..).1 hn).1
  exact Text.findSubChars_eq_none_iff.1 hnone ⟨front, rest, rfl⟩

end Search

/-! ### Keys -/

/-- The tag whose text the first four bytes are. -/
def tagOf (bytes : List UInt8) : Option Tag :=
  (textAt? bytes 0 4).bind fun head =>
    [Tag.mock, .verification, .stub, .stubbedMethod].find? fun tag => tag.text == head

/-- Cuts the payload of a mock at its first `~`. -/
def mockOf (search : Search) (payload : List UInt8) : Except Fault (Option VirtualType) :=
  match search.byte 0x7E payload with
  | some n => do
    let signature ← slice payload 0 n
    let className ← slice payload (n + 1) payload.length
    pure (some (.mock signature className))
  | none => pure none

/-- Reads a key. -/
def parse (search : Search) (key : List UInt8) : Except Fault (Option VirtualType) :=
  match tagOf key with
  | some tag => do
    let payload ← slice key 4 key.length
    match tag with
    | .mock => mockOf search (encode payload.toList)
    | .verification => pure (some (.verification (Text.splitNonEmpty '|' payload)))
    | .stub => pure (some (.stub (Text.splitNonEmpty '|' payload)))
    | .stubbedMethod => pure (some .stubbedMethod)
  | none => pure none

/-! ### Resolution -/

/-- The declarations that a member of a union stands for: those of the mock embedded in it, from the
first place that has the tag of one, and otherwise those of the name it is. -/
def resolveMember (search : Search) (lk : Lookups) (member : String) :
    Except Fault (List Declaration) :=
  match search.row (encode Tag.mock.text.toList) (encode member.toList) with
  | some n => do
    let embedded ← slice (encode member.toList) n (encode member.toList).length
    match ← parse search (encode embedded.toList) with
    | some (.mock signature className) => pure (lk.resolveMock signature className)
    | _ => pure []
  | none => pure (lk.resolveName member)

/-- The declarations a virtual type stands for, each at its first occurrence. -/
def resolve (search : Search) (lk : Lookups) (binder : String) :
    VirtualType → Except Fault (List Declaration)
  | .mock signature className => pure (lk.resolveMock signature className).eraseDups
  | .verification ms => do
    let found ← ms.mapM (resolveMember search lk)
    pure found.flatten.eraseDups
  | .stub ms => do
    let found ← ms.mapM (resolveMember search lk)
    pure found.flatten.eraseDups
  | .stubbedMethod => pure (lk.classByName binder).toList.eraseDups

/-- The declarations a key stands for. -/
def resolveKey (search : Search) (lk : Lookups) (binder key : String) :
    Except Fault (List Declaration) := do
  match ← parse search (encode key.toList) with
  | some v => resolve search lk binder v
  | none => pure []

/-- The declarations the keys among the candidate types stand for, each once. -/
def resolveTypes (search : Search) (ix : Index) (binder : String) (types : List String) :
    Except Fault (List Declaration) := do
  let found ← types.mapM (resolveKey search ix.lookups binder)
  pure found.flatten.eraseDups

/-! ### What is read -/

theorem byteLength_text (tag : Tag) : byteLength tag.text.toList = 4 := by
  cases tag <;> rfl

theorem find?_text (tag : Tag) :
    [Tag.mock, .verification, .stub, .stubbedMethod].find? (fun t => t.text == tag.text)
      = some tag := by
  cases tag <;> rfl

theorem tagOf_encode (key : List Char) : tagOf (encode key) = (Tag.cut? key).map Prod.fst := by
  cases hcut : Tag.cut? key with
  | some cut =>
      obtain ⟨tag, payload⟩ := cut
      have hhead := textAt?_front tag.text.toList payload
      rw [byteLength_text, String.ofList_toList] at hhead
      rw [Tag.cut?_eq_some_iff.1 hcut, tagOf, hhead, Option.bind_some, find?_text]
      rfl
  | none =>
      refine Option.eq_none_iff_forall_ne_some.2 fun tag htag => ?_
      obtain ⟨head, hhead, hfind⟩ := Option.bind_eq_some_iff.1 htag
      obtain ⟨front, rest, hkey, hfront, -⟩ := textAt?_eq_some_iff.1 hhead
      obtain rfl : front = [] := Text.byteLength_eq_zero_iff.1 hfront.symm
      obtain rfl : tag.text = head := by simpa using List.find?_some hfind
      rw [List.nil_append, ← Tag.cut?_eq_some_iff, hcut] at hkey
      cases hkey

/-- What is read of every one of some texts. -/
theorem mapM_eq_ok {α β : Type} {f : α → Except Fault β} {g : α → β} (hf : ∀ a, f a = .ok (g a))
    (as : List α) : as.mapM f = .ok (as.map g) := by
  rw [funext hf]
  exact List.mapM_pure

section Reading

variable {search : Search} (h : search.FindsFirst)

include h

theorem mockOf_encode (payload : String) :
    mockOf search (encode payload.toList)
      = .ok ((Text.cutFirst '~' payload).map fun parts => .mock parts.1 parts.2) := by
  have htilde : '~'.toNat < 128 := by decide
  unfold mockOf
  cases hcut : Text.cutFirst '~' payload with
  | none =>
      have hnone : '~' ∉ payload.toList := by
        rw [← Text.isSome_cutFirst_iff, hcut]
        simp
      have hsearch : search.byte 0x7E _ = none := h.byte_encode_of_notMem htilde hnone
      rw [hsearch]
      rfl
  | some parts =>
      obtain ⟨signature, className⟩ := parts
      obtain ⟨rfl, hsignature⟩ := Text.eq_of_cutFirst hcut
      have hpayload : (signature ++ String.singleton '~' ++ className).toList
          = signature.toList ++ '~' :: className.toList := by simp
      have hsearch : search.byte 0x7E _ = some _ := h.byte_encode htilde hsignature className.toList
      have hfirst := slice_front signature.toList ('~' :: className.toList)
      have hlast := slice_rest (signature.toList ++ ['~']) className.toList
      rw [String.ofList_toList] at hfirst
      rw [Text.byteLength_append, List.append_assoc, List.singleton_append,
        String.ofList_toList] at hlast
      rw [hpayload, hsearch]
      change (slice _ _ _ >>= fun _ => slice _ (byteLength _ + byteLength ['~']) _ >>= _) = _
      rw [hfirst, ok_bind, hlast]
      rfl

/-- **No reading of a key goes wrong.** -/
theorem parse_encode (key : String) :
    parse search (encode key.toList) = .ok (VirtualType.parse key) := by
  rw [parse, tagOf_encode, VirtualType.parse]
  cases hcut : Tag.cut? key.toList with
  | none => rfl
  | some cut =>
      obtain ⟨tag, payload⟩ := cut
      have hslice := slice_rest tag.text.toList payload
      rw [byteLength_text, ← Tag.cut?_eq_some_iff.1 hcut] at hslice
      rw [Option.map_some, Option.bind_some]
      dsimp only
      rw [hslice, ok_bind]
      cases tag with
      | mock => exact mockOf_encode h (String.ofList payload)
      | verification => rfl
      | stub => rfl
      | stubbedMethod => rfl

/-- **No member of a union is cut in the wrong place.** -/
theorem resolveMember_encode (lk : Lookups) (member : String) :
    resolveMember search lk member = .ok (lk.resolveMember member) := by
  have hne : Tag.mock.text.toList ≠ [] := by decide
  unfold resolveMember Lookups.resolveMember Text.findSub
  cases hfind : Text.findSubChars Tag.mock.text.toList member.toList with
  | none =>
      rw [h.row_encode_of_findSubChars hne hfind]
      rfl
  | some found =>
      obtain ⟨front, hmember, hsearch⟩ := h.row_encode hne hfind
      have hslice := slice_rest front found
      have hparse := parse_encode h (String.ofList found)
      rw [← hmember] at hslice
      rw [hsearch]
      change (slice _ _ _ >>= fun _ => _) = _
      rw [hslice, ok_bind, hparse, ok_bind]
      change _ = Except.ok (match VirtualType.parse (String.ofList found) with
        | some (.mock signature className) => lk.resolveMock signature className
        | _ => [])
      split <;> rfl

theorem resolve_eq (lk : Lookups) (binder : String) (v : VirtualType) :
    resolve search lk binder v = .ok (lk.resolve binder v) := by
  have hmembers := mapM_eq_ok (resolveMember_encode h lk)
  cases v with
  | mock signature className => rfl
  | verification ms =>
      rw [resolve, hmembers, ok_bind, ← List.flatMap_def]
      rfl
  | stub ms =>
      rw [resolve, hmembers, ok_bind, ← List.flatMap_def]
      rfl
  | stubbedMethod => rfl

theorem resolveKey_eq (lk : Lookups) (binder key : String) :
    resolveKey search lk binder key = .ok (lk.resolveKey binder key) := by
  rw [resolveKey, parse_encode h, ok_bind, Lookups.resolveKey]
  cases VirtualType.parse key with
  | some v => exact resolve_eq h lk binder v
  | none => rfl

/-- **Candidate types are resolved without going wrong.** -/
theorem resolveTypes_eq (ix : Index) (binder : String) (types : List String) :
    resolveTypes search ix binder types = .ok (ix.resolveTypes binder types) := by
  rw [resolveTypes, mapM_eq_ok (resolveKey_eq h ix.lookups binder), ok_bind, ← List.flatMap_def]
  rfl

end Reading

end Bytes

end MockLens
