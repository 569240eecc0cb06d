/-
**Verifications and stubs are as transparent as their argument.**

A verification or a stub of a value has the candidate types of that value, and so it should stand
for exactly the declarations its candidates stand for.  Three things lie between: the candidates
are taken once each, they are joined into one text, and that text is cut at every `|`, also inside
the key of a mock whose literal is a union.  The proof follows these three steps: leaving out a
repeated candidate changes nothing, joining and cutting gives the segments of the candidates, and
the segments of the key of a mock stand together for what the key itself stands for.

Main definitions:

* `IsPlainName`, `IsMockKey` — the candidate types a walk finds: names, and keys of mocks;
* `Lookups.ownDeclarations` — the declarations one candidate stands for by itself;
* `CallSite.declarations` — those the key of a call stands for.

Main results:

* `Lookups.flatMap_resolveMember_mockKey` — the segments of the key of a mock stand for the mock;
* `CallSite.declarations_passThrough` — **a verification or a stub stands for what its candidates
  stand for**, in their order and each once.
-/
import MockLens.Resolution
import MockLens.Proofs.CallSites

set_option autoImplicit false

namespace MockLens

/-! ### Leaving out repetitions -/

section Repetitions

variable {α β : Type} [DecidableEq β]

theorem eraseDups_filter (p : β → Bool) :
    ∀ as : List β, (as.filter p).eraseDups = as.eraseDups.filter p
  | [] => by simp
  | a :: as => by
      have hlen : (as.filter fun b => !b == a).length < as.length + 1 :=
        Nat.lt_succ_of_le (List.length_filter_le _ _)
      have ih := eraseDups_filter p (as.filter fun b => !b == a)
      by_cases hp : p a = true
      · rw [List.filter_cons_of_pos hp, List.eraseDups_cons, List.eraseDups_cons,
          List.filter_cons_of_pos hp, ← ih, List.filter_filter, List.filter_filter]
        simp only [Bool.and_comm]
      · rw [List.filter_cons_of_neg hp, List.eraseDups_cons, List.filter_cons_of_neg hp, ← ih,
          List.filter_filter]
        congr 1
        refine List.filter_congr fun b _ => ?_
        by_cases hb : b = a
        · simp [hb, hp]
        · simp [hb]
  termination_by as => as.length

theorem nodup_eraseDups : ∀ as : List β, as.eraseDups.Nodup
  | [] => by simp
  | a :: as => by
      have hlen : (as.filter fun b => !b == a).length < as.length + 1 :=
        Nat.lt_succ_of_le (List.length_filter_le _ _)
      rw [List.eraseDups_cons]
      exact List.nodup_cons.2 ⟨by simp [List.mem_eraseDups], nodup_eraseDups _⟩
  termination_by as => as.length

/-- Whether an element is new behind a list depends on the members of that list only. -/
theorem eraseDups_append_congr {as as' bs bs' : List β} (ha : as.eraseDups = as'.eraseDups)
    (hb : bs.eraseDups = bs'.eraseDups) : (as ++ bs).eraseDups = (as' ++ bs').eraseDups := by
  have hmem : ∀ b, b ∈ as ↔ b ∈ as' := fun b => by
    rw [← List.mem_eraseDups, ha, List.mem_eraseDups]
  rw [List.eraseDups_append, List.eraseDups_append, ha, List.removeAll, List.removeAll,
    eraseDups_filter, eraseDups_filter, hb]
  congr 1
  refine List.filter_congr fun b _ => ?_
  simp [hmem b]

theorem eraseDups_flatMap_congr {f g : α → List β} {as : List α}
    (h : ∀ a ∈ as, (f a).eraseDups = (g a).eraseDups) :
    (as.flatMap f).eraseDups = (as.flatMap g).eraseDups := by
  induction as with
  | nil => rfl
  | cons a as ih =>
      rw [List.flatMap_cons, List.flatMap_cons]
      exact eraseDups_append_congr (h a List.mem_cons_self)
        (ih fun b hb => h b (List.mem_cons_of_mem _ hb))

/-- Behind the elements that come from `a`, those from further occurrences of `a` are not new. -/
theorem removeAll_flatMap_filter [DecidableEq α] (f : α → List β) (a : α) (as : List α) :
    ((as.filter fun b => !b == a).flatMap f).removeAll (f a)
      = (as.flatMap f).removeAll (f a) := by
  induction as with
  | nil => rfl
  | cons b bs ih =>
      simp only [List.removeAll, List.elem_eq_mem] at ih ⊢
      by_cases hb : b = a
      · have hown : (f a).filter (fun x => !decide (x ∈ f a)) = [] :=
          List.filter_eq_nil_iff.2 fun x hx => by simp [hx]
        rw [List.filter_cons_of_neg (by simp [hb]), List.flatMap_cons, List.filter_append, hb, hown,
          ih, List.nil_append]
      · rw [List.filter_cons_of_pos (by simp [hb]), List.flatMap_cons, List.flatMap_cons,
          List.filter_append, List.filter_append, ih]

/-- Taking each element once does not change what comes of them all. -/
theorem eraseDups_flatMap_eraseDups [DecidableEq α] (f : α → List β) :
    ∀ as : List α, (as.eraseDups.flatMap f).eraseDups = (as.flatMap f).eraseDups
  | [] => by simp
  | a :: as => by
      have hlen : (as.filter fun b => !b == a).length < as.length + 1 :=
        Nat.lt_succ_of_le (List.length_filter_le _ _)
      have ih := eraseDups_flatMap_eraseDups f (as.filter fun b => !b == a)
      rw [List.eraseDups_cons, List.flatMap_cons, List.flatMap_cons, eraseDups_append_congr rfl ih,
        List.eraseDups_append, List.eraseDups_append, removeAll_flatMap_filter]
  termination_by as => as.length

theorem eraseDups_eraseDups (as : List β) : as.eraseDups.eraseDups = as.eraseDups := by
  simpa using eraseDups_flatMap_eraseDups (fun b : β => [b]) as

end Repetitions

/-! ### Candidate types -/

/-- A class name as a candidate type: it can be no part of a key and is not cut at a `|`. -/
structure IsPlainName (type : String) : Prop where
  ne_empty : type ≠ ""
  bar_notMem : '|' ∉ type.toList
  angle_notMem : '<' ∉ type.toList

/-- The key of a call that constructs a mock, with any literal that does not hold the tag of a mock
itself. -/
def IsMockKey (type : String) : Prop :=
  ∃ (site : CallSite) (contents : String) (others : List CallSite.Argument),
    site.signature ∈ CallKind.mockSignatures ∧ site.arguments = .literal contents :: others ∧
      Text.hasSub Tag.mock.text contents = false ∧ site.key = some type

/-- The declarations one candidate type stands for by itself. -/
def Lookups.ownDeclarations (lk : Lookups) (binder type : String) : List Declaration :=
  if isKey type then lk.resolveKey binder type else lk.resolveName type

/-- The declarations the key of a call stands for; none when the call has no key. -/
def CallSite.declarations (lk : Lookups) (binder : String) (site : CallSite) : List Declaration :=
  site.key.elim [] (lk.resolveKey binder)

namespace CallSite

theorem virtualType_of_mem_mockSignatures {site : CallSite} {contents : String}
    {others : List Argument} (hsig : site.signature ∈ CallKind.mockSignatures)
    (hargs : site.arguments = .literal contents :: others) :
    site.virtualType = if contents = "" then none else some (.mock site.signature contents) := by
  have hkind : CallKind.ofSignature site.signature = some .mockConstruction := by
    simp [CallKind.ofSignature, hsig]
  simp [virtualType, hkind, hargs]

end CallSite

/-- What a key of a mock looks like. -/
theorem IsMockKey.eq_text {type : String} (h : IsMockKey type) :
    ∃ signature contents : String, '~' ∉ signature.toList ∧ '|' ∉ signature.toList ∧
      ¬ Tag.mock.text.toList <:+: contents.toList ∧
      type = VirtualType.toKey (.mock signature contents) := by
  obtain ⟨site, contents, others, hsig, hargs, htag, hkey⟩ := h
  have hmarks : ∀ s ∈ CallKind.mockSignatures, '~' ∉ s.toList ∧ '|' ∉ s.toList := by decide
  rw [CallSite.key, CallSite.virtualType_of_mem_mockSignatures hsig hargs] at hkey
  split at hkey
  · simp at hkey
  · exact ⟨site.signature, contents, (hmarks _ hsig).1, (hmarks _ hsig).2,
      Text.hasSub_eq_false_iff.1 htag, by simpa using hkey.symm⟩

namespace Lookups

variable (lk : Lookups) (binder : String)

theorem resolveMember_of_notInfix {member : String}
    (h : ¬ Tag.mock.text.toList <:+: member.toList) :
    lk.resolveMember member = lk.resolveName member := by
  rw [resolveMember, Text.findSub_eq_none_iff.2 h]

/-- The beginning of the key of a mock is enough to find the mock. -/
theorem resolveMember_mockKey {signature : String} (h : '~' ∉ signature.toList)
    (className : String) :
    lk.resolveMember (VirtualType.toKey (.mock signature className))
      = lk.resolveMock signature className := by
  have hfind : Text.findSub Tag.mock.text (VirtualType.toKey (.mock signature className))
      = some (VirtualType.toKey (.mock signature className)) :=
    Text.findSub_append _ _ (by decide)
  rw [resolveMember, hfind]
  simp only [VirtualType.parse_toKey_mock h]

/-- **The segments of the key of a mock stand together for the mock.**  Only the first segment holds
the tag; it stands for the methods of the builder call and the first mocked name, and each further
segment is a mocked name of its own. -/
theorem flatMap_resolveMember_mockKey {signature contents : String}
    (htilde : '~' ∉ signature.toList) (hbar : '|' ∉ signature.toList)
    (htag : ¬ Tag.mock.text.toList <:+: contents.toList) :
    (Text.splitNonEmpty '|' (VirtualType.toKey (.mock signature contents))).flatMap lk.resolveMember
      = lk.resolveMock signature contents := by
  have hkey : ∀ names, VirtualType.toKey (.mock signature names)
      = (Tag.mock.text ++ (signature ++ "~")) ++ names := fun names => by
    simp [VirtualType.toKey, VirtualType.payload, VirtualType.tag, String.append_assoc]
  have hpre : '|' ∉ (Tag.mock.text ++ (signature ++ "~")).toList := by simp [Tag.text, hbar]
  obtain ⟨first, more, hsplit⟩ := Text.split_eq_cons '|' contents
  have hfirst : '|' ∉ first.toList := Text.mem_split_notMem (hsplit ▸ List.mem_cons_self)
  have hne : VirtualType.toKey (.mock signature first) ≠ "" := by
    rw [hkey, ne_eq, ← String.toList_inj]
    simp [Tag.text]
  -- the tail of the segments holds no tag, so every one of them is read as a name
  have hmore : (more.filter fun seg => seg != "").flatMap lk.resolveMember
      = (more.filter fun seg => seg != "").flatMap lk.resolveName := by
    refine List.flatMap_congr fun seg hseg => lk.resolveMember_of_notInfix fun hin => htag ?_
    have hmem : seg ∈ Text.split '|' contents :=
      hsplit ▸ List.mem_cons_of_mem _ (List.mem_of_mem_filter hseg)
    exact hin.trans (Text.mem_split_isInfix hmem)
  have hsegs : Text.splitNonEmpty '|' (VirtualType.toKey (.mock signature contents))
      = VirtualType.toKey (.mock signature first) :: more.filter fun seg => seg != "" := by
    rw [Text.splitNonEmpty, hkey, Text.split_append_of_notMem hpre hsplit, ← hkey,
      List.filter_cons_of_pos (by simpa using hne)]
  rw [hsegs, List.flatMap_cons, lk.resolveMember_mockKey htilde, hmore, resolveMock, resolveMock,
    Text.splitNonEmpty_of_notMem hfirst, Text.splitNonEmpty, hsplit, List.append_assoc]
  by_cases hempty : first = ""
  · simp [hempty]
  · simp [hempty]

/-- The segments of a candidate stand for what the candidate stands for. -/
theorem flatMap_resolveMember_candidate {type : String} (h : IsPlainName type ∨ IsMockKey type) :
    ((Text.splitNonEmpty '|' type).flatMap lk.resolveMember).eraseDups
      = (lk.ownDeclarations binder type).eraseDups := by
  rcases h with h | h
  · have htag : ¬ Tag.mock.text.toList <:+: type.toList := fun hin =>
      h.angle_notMem (hin.subset (by decide))
    have hkey : isKey type = false := by simp [isKey, Tag.ofKey_eq_none_of_notMem h.angle_notMem]
    rw [Text.splitNonEmpty_of_notMem h.bar_notMem, if_neg h.ne_empty, ownDeclarations, hkey]
    simp [lk.resolveMember_of_notInfix htag]
  · obtain ⟨signature, contents, htilde, hbar, htag, rfl⟩ := h.eq_text
    have hkey : isKey (VirtualType.toKey (.mock signature contents)) = true := by
      simp [isKey, VirtualType.toKey, Tag.ofKey_text_append]
    rw [lk.flatMap_resolveMember_mockKey htilde hbar htag, ownDeclarations, hkey, if_pos rfl,
      resolveKey, VirtualType.parse_toKey_mock htilde]
    exact (eraseDups_eraseDups _).symm

end Lookups

/-! ### Verifications and stubs -/

theorem IsMockKey.ne_empty {type : String} (h : IsMockKey type) : type ≠ "" := by
  obtain ⟨signature, contents, -, -, -, rfl⟩ := h.eq_text
  rw [ne_eq, ← String.toList_inj]
  simp [VirtualType.toKey, VirtualType.tag, Tag.text]

namespace CallSite

/-- What a verification or a stub stands for, in terms of the members of its union. -/
theorem declarations_of_passedTypes (lk : Lookups) (binder : String) {site : CallSite}
    (hsig : site.signature ∈ CallKind.verificationSignatures ∨
      site.signature ∈ CallKind.stubSignatures) :
    site.key.isSome = site.passedTypes.isSome ∧
      site.declarations lk binder
        = (((site.passedTypes.getD []).flatMap (Text.splitNonEmpty '|')).flatMap
            lk.resolveMember).eraseDups := by
  have hvirtual : site.virtualType = site.passedTypes.map .verification ∨
      site.virtualType = site.passedTypes.map .stub := by
    have hverification : ∀ s ∈ CallKind.verificationSignatures,
        CallKind.ofSignature s = some .verification := by decide
    have hstub : ∀ s ∈ CallKind.stubSignatures, CallKind.ofSignature s = some .stub := by decide
    rcases hsig with hsig | hsig
    · exact .inl (by simp [virtualType, hverification _ hsig])
    · exact .inr (by simp [virtualType, hstub _ hsig])
  rcases hvirtual with hvirtual | hvirtual
  all_goals
    cases hpassed : site.passedTypes with
    | none => simp [declarations, key, hvirtual, hpassed]
    | some union =>
        simp [declarations, key, hvirtual, hpassed, Lookups.resolveKey, Lookups.resolve,
          VirtualType.parse_toKey_verification, VirtualType.parse_toKey_stub]

/-- Joining the candidates and cutting the text apart again loses nothing and adds nothing. -/
theorem declarations_eq_flatMap (lk : Lookups) (binder : String) {site : CallSite}
    {types : List String} {others : List Argument}
    (hsig : site.signature ∈ CallKind.verificationSignatures ∨
      site.signature ∈ CallKind.stubSignatures)
    (hargs : site.arguments = .typed types :: others)
    (htypes : ∀ t ∈ types, IsPlainName t ∨ IsMockKey t) :
    site.declarations lk binder = (types.flatMap (lk.ownDeclarations binder)).eraseDups := by
  have hne : ∀ t ∈ types, t ≠ "" := fun t ht => (htypes t ht).elim (·.ne_empty) (·.ne_empty)
  have hmembers : site.passedTypes.getD [] = types.eraseDups := by
    rw [passedTypes_eq hargs hne]
    split <;> simp_all
  rw [(declarations_of_passedTypes lk binder hsig).2, hmembers, List.flatMap_assoc,
    eraseDups_flatMap_eraseDups]
  exact eraseDups_flatMap_congr fun t ht => lk.flatMap_resolveMember_candidate binder (htypes t ht)

/-- **A verification or a stub stands for what its candidates stand for**: for the declarations of
one candidate after the other, each at its first occurrence, so that the order of the candidates
decides about the order of the declarations only.  It has a key whenever there is a candidate. -/
theorem declarations_passThrough (lk : Lookups) (binder : String) (site : CallSite)
    (types : List String) (others : List Argument)
    (hsig : site.signature ∈ CallKind.verificationSignatures ∨
      site.signature ∈ CallKind.stubSignatures)
    (hargs : site.arguments = .typed types :: others)
    (htypes : ∀ t ∈ types, IsPlainName t ∨ IsMockKey t) :
    (site.key.isSome ↔ types ≠ []) ∧
      site.declarations lk binder = (types.flatMap (lk.ownDeclarations binder)).eraseDups ∧
      ∀ types', types'.Perm types → ∀ d,
        d ∈ CallSite.declarations lk binder { site with arguments := .typed types' :: others } ↔
          d ∈ site.declarations lk binder := by
  have hne : ∀ t ∈ types, t ≠ "" := fun t ht => (htypes t ht).elim (·.ne_empty) (·.ne_empty)
  refine ⟨?_, declarations_eq_flatMap lk binder hsig hargs htypes, fun types' hperm d => ?_⟩
  · rw [(declarations_of_passedTypes lk binder hsig).1, passedTypes_eq hargs hne]
    split <;> simp_all
  · have hother : CallSite.declarations lk binder { site with arguments := .typed types' :: others }
        = (types'.flatMap (lk.ownDeclarations binder)).eraseDups :=
      declarations_eq_flatMap lk binder hsig rfl fun t ht => htypes t (hperm.mem_iff.1 ht)
    rw [hother, declarations_eq_flatMap lk binder hsig hargs htypes, List.mem_eraseDups,
      List.mem_eraseDups]
    exact (hperm.flatMap_right _).mem_iff

/-- A mocked union between two plain names, in a project where every name is a class. -/
theorem declarations_passThrough_union :
    let cls (name : String) : Declaration :=
      ⟨.cls, name, name, none, false, "file:///all.php", ⟨0, 0⟩⟩
    let lk : Lookups := ⟨fun name => some (cls name), fun _ => [], fun _ => [], fun _ => []⟩
    let types := ["C", "<01>#M#C\\Phake.mock~A||B", "A"]
    let site : CallSite := ⟨"#M#C\\Phake.verify", [.typed types], .fresh⟩
    (∀ t ∈ types, IsPlainName t ∨ IsMockKey t) ∧
      site.declarations lk "Binder" = [cls "C", cls "A", cls "B"] := by
  intro cls lk types site
  have htypes : ∀ t ∈ types, IsPlainName t ∨ IsMockKey t := by
    intro t ht
    simp only [types, List.mem_cons, List.not_mem_nil, or_false] at ht
    rcases ht with rfl | rfl | rfl
    · exact .inl ⟨by decide, by decide, by decide⟩
    · exact .inr ⟨⟨"#M#C\\Phake.mock", [.literal "A||B"], .fresh⟩, "A||B", [], by decide, rfl,
        by decide, by decide⟩
    · exact .inl ⟨by decide, by decide, by decide⟩
  refine ⟨htypes, ?_⟩
  rw [(declarations_passThrough lk "Binder" site types [] (.inl (by decide)) rfl htypes).2.1]
  decide

end CallSite

end MockLens
