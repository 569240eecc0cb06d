/-
**Call sites: when a call has a virtual type.**

The virtual type of a call is found by comparing its signature with seven texts
(`MockLens/CallSite.lean`).  This module says the same in terms of what the texts mean: a static
call is one of the facade exactly when its class and its method are, and it then has a virtual type
exactly when its first argument suits its kind.

Main definitions:

* `CallKind.tag`, `CallKind.methods` — the kind of key of a facade call, and its methods;
* `CallSite.Suits` — the first argument is one that a facade call of a kind asks for.

Main results:

* `CallKind.ofSignature_staticSignature_iff` — which static calls are of the facade;
* `CallSite.tag_virtualType_eq_some_iff` — which calls have a virtual type of the facade;
* `CallSite.passedTypes_eq` — what a verification or a stub passes on;
* `CallSite.isSome_parse_key`, `CallSite.map_tag_parse_key` — the key of any call, read back.
-/
import Mathlib.Data.List.Basic
import MockLens.CallSite
import MockLens.Proofs.Keys

set_option autoImplicit false

namespace MockLens

/-! ### Signatures of the facade -/

/-- A signature of a static call tells class and method, if these hold no dot. -/
theorem CallSite.staticSignature_inj {path name path' name' : String} (hpath : '.' ∉ path'.toList)
    (hname : '.' ∉ name'.toList) :
    staticSignature path name = staticSignature path' name' ↔ path = path' ∧ name = name' := by
  constructor
  · intro h
    have hlist : path'.toList ++ '.' :: name'.toList = path.toList ++ '.' :: name.toList := by
      have htexts := congrArg String.toList h.symm
      simpa [staticSignature] using htexts
    obtain ⟨hpaths, -, hnames⟩ := (List.append_cons_inj_of_notMem hpath hname).1 hlist
    exact ⟨String.toList_inj.1 hpaths.symm, String.toList_inj.1 hnames.symm⟩
  · rintro ⟨rfl, rfl⟩
    rfl

namespace CallKind

/-- The kind of key that calls of a kind have. -/
def tag : CallKind → Tag
  | mockConstruction => .mock
  | verification => .verification
  | stub => .stub

/-- The methods of the facade by which calls of a kind are made. -/
def methods : CallKind → List String
  | mockConstruction => ["mock", "partialMock", "partMock"]
  | verification => ["verify", "verifyStatic"]
  | stub => ["when", "whenStatic"]

theorem mem_of_ofSignature {signature : String} {kind : CallKind}
    (h : ofSignature signature = some kind) :
    signature ∈ kind.methods.map (CallSite.staticSignature "\\Phake") := by
  unfold ofSignature at h
  split at h
  · rename_i hmem
    obtain rfl := Option.some.inj h
    exact List.contains_iff_mem.1 hmem
  split at h
  · rename_i hmem
    obtain rfl := Option.some.inj h
    exact List.contains_iff_mem.1 hmem
  split at h
  · rename_i hmem
    obtain rfl := Option.some.inj h
    exact List.contains_iff_mem.1 hmem
  · cases h

/-- **A static call is one of the facade exactly when its class and method are.** -/
theorem ofSignature_staticSignature_iff (path name : String) (kind : CallKind) :
    ofSignature (CallSite.staticSignature path name) = some kind
      ↔ path = "\\Phake" ∧ name ∈ kind.methods := by
  constructor
  · intro h
    obtain ⟨m, hm, heq⟩ := List.mem_map.1 (mem_of_ofSignature h)
    have hdot : ∀ m ∈ kind.methods, '.' ∉ m.toList := by cases kind <;> decide
    obtain ⟨rfl, rfl⟩ := (CallSite.staticSignature_inj (by decide) (hdot m hm)).1 heq.symm
    exact ⟨rfl, hm⟩
  · rintro ⟨rfl, hname⟩
    have hall : ∀ m ∈ kind.methods,
        ofSignature (CallSite.staticSignature "\\Phake" m) = some kind := by
      cases kind <;> decide
    exact hall name hname

end CallKind

/-! ### Virtual types -/

namespace CallSite

variable {site : CallSite}

/-- A verification or a stub passes on the candidate types of its first argument, each once. -/
theorem passedTypes_eq {types : List String} {others : List Argument}
    (hargs : site.arguments = .typed types :: others) (hne : ∀ t ∈ types, t ≠ "") :
    site.passedTypes = if types = [] then none else some types.eraseDups := by
  have hfilter : types.filter (fun t => t != "") = types :=
    List.filter_eq_self.2 fun t ht => by simpa using hne t ht
  cases types with
  | nil => simp [passedTypes, hargs]
  | cons t ts => simp [passedTypes, hargs, hfilter, List.eraseDups_cons]

/-- Types are passed on when there are any. -/
theorem isSome_passedTypes_iff
    (hne : ∀ types others, site.arguments = .typed types :: others → ∀ t ∈ types, t ≠ "") :
    site.passedTypes.isSome = true
      ↔ ∃ types others, site.arguments = .typed types :: others ∧ types ≠ [] := by
  rcases hargs : site.arguments with _ | ⟨_ | types | _, others⟩
  · simp [passedTypes, hargs]
  · simp [passedTypes, hargs]
  · rw [passedTypes_eq hargs (hne types others hargs)]
    cases types <;> simp
  · simp [passedTypes, hargs]

/-- The first argument is one that a facade call of the given kind asks for. -/
def Suits (site : CallSite) : CallKind → Prop
  | .mockConstruction => ∃ contents others,
      site.arguments = .literal contents :: others ∧ contents ≠ ""
  | .verification => site.passedTypes.isSome = true
  | .stub => site.passedTypes.isSome = true

/-- **A call has a virtual type of the facade exactly when it is a facade call with an argument that
suits it.** -/
theorem tag_virtualType_eq_some_iff (kind : CallKind) :
    site.virtualType.map VirtualType.tag = some kind.tag
      ↔ CallKind.ofSignature site.signature = some kind ∧ site.Suits kind := by
  unfold virtualType
  cases hkind : CallKind.ofSignature site.signature with
  | none => cases kind <;> (dsimp only; split) <;> simp [VirtualType.tag, CallKind.tag]
  | some own =>
      cases own with
      | mockConstruction =>
          rcases hargs : site.arguments with _ | ⟨_ | _ | _, others⟩
          all_goals cases kind <;> simp [Suits, hargs, VirtualType.tag, CallKind.tag]
      | _ =>
          cases hpassed : site.passedTypes <;> cases kind <;>
            simp [Suits, hpassed, VirtualType.tag, CallKind.tag]

/-- Outside a stub chain no call is a stubbed method. -/
theorem tag_virtualType_ne_stubbedMethod (hchain : site.chain = .fresh) :
    site.virtualType.map VirtualType.tag ≠ some .stubbedMethod := by
  unfold virtualType
  cases hkind : CallKind.ofSignature site.signature with
  | none => simp [hchain]
  | some kind =>
      cases kind with
      | mockConstruction =>
          rcases hargs : site.arguments with _ | ⟨_ | _ | _, others⟩
          all_goals simp [VirtualType.tag]
      | _ => cases site.passedTypes <;> simp [VirtualType.tag]

/-! ### Keys -/

/-- The key of a call is read back as what was written. -/
theorem map_tag_parse_key : (site.key.bind VirtualType.parse).map VirtualType.tag
    = site.virtualType.map VirtualType.tag := by
  rw [key]
  cases site.virtualType with
  | none => rfl
  | some v => simpa using v.map_tag_parse_toKey

/-- The key of any call can be read back. -/
theorem isSome_parse_key {key : String} (h : site.key = some key) :
    (VirtualType.parse key).isSome = true := by
  rw [CallSite.key, Option.map_eq_some_iff] at h
  obtain ⟨v, _, rfl⟩ := h
  have htag := v.map_tag_parse_toKey
  cases hparse : VirtualType.parse v.toKey with
  | none => simp [hparse] at htag
  | some _ => rfl

end CallSite

end MockLens
