/-
**Literal targets: the names of a literal, resolved once and recognised again.**

Inside the literal of a mock a definition answers with the class-likes it names
(`MockLens/Definition.lean`).  They are not resolved from the literal itself.  The key of the call
is, and it stands for the methods of the builder as well; these are dropped afterwards by comparing
every declaration with the names in the literal, a comparison with rules of its own.  It drops
neither more nor less than it should: the builder's signature names methods alone, and whatever a
name is resolved to has that short name, or that path less the backslashes in front of the name.
The latter asks that no class-like has a path with a backslash in front.  Which call the literal
belongs to does not matter, since one offset is in one literal (`MockLens/Proofs/CallTokens.lean`).

Main definitions:

* `Index.PathsUnrooted` — no class-like of an account has a path with a backslash in front;
* `Index.NamesListed` — what is answered in a literal.

Main results:

* `Index.IsFilled.named_of_mem_resolveName` — what a name is resolved to has that name;
* `Index.IsFilled.filter_resolveKey_mock` — what the key of a mock stands for, less the builder;
* `Index.literalTargets_listed` — **what is answered in the literal of every recorded mock**, after
  any history of the index.
-/
import MockLens.Proofs.CallTokens
import MockLens.Proofs.OfferedNames

set_option autoImplicit false

namespace MockLens

/-! ### Names without backslashes in front -/

namespace Text

theorem trimStart_of_unrooted {s : String} (h : startsWith "\\" s = false) :
    trimStart (· == '\\') s = s := by
  rw [trimStart]
  cases hs : s.toList with
  | nil => exact String.toList_inj.1 (by rw [hs, String.toList_ofList]; rfl)
  | cons c cs =>
      have hc : (c == '\\') = false := by
        rw [beq_eq_false_iff_ne]
        rintro rfl
        have hroot : startsWith "\\" s = true :=
          startsWith_iff.2 ⟨String.ofList cs, String.toList_inj.1 (by simp [hs])⟩
        rw [h] at hroot
        cases hroot
      rw [List.dropWhile_cons_of_neg (by simp [hc]), ← hs, String.ofList_toList]

theorem trimStart_rooted (s : String) :
    trimStart (· == '\\') ("\\" ++ s) = trimStart (· == '\\') s := by
  rw [trimStart, trimStart, String.toList_append]
  rfl

end Text

theorem pathKey_of_unrooted {path : String} (h : Text.startsWith "\\" path = false) :
    pathKey path = Text.lower path := by
  rw [pathKey, Text.dropPrefix?_eq_none h]
  rfl

/-- Of two paths that are looked up alike, one without a backslash in front is the other one less
all it has in front, up to ASCII case. -/
theorem sameFold_trimStart_of_pathKey {path name : String}
    (hpath : Text.startsWith "\\" path = false) (h : pathKey path = pathKey name) :
    Text.sameFold path (Text.trimStart (· == '\\') name) = true := by
  rw [pathKey_of_unrooted hpath] at h
  rw [Text.sameFold, beq_iff_eq, h]
  by_cases hroot : Text.startsWith "\\" name = true
  · obtain ⟨rest, rfl⟩ := Text.startsWith_iff.1 hroot
    rw [Index.pathKey_backslash] at h ⊢
    -- only one backslash is dropped for the lookup, so there was only one
    have hrest : Text.startsWith "\\" rest = false := by
      rw [← Text.startsWith_lower, ← h, Text.startsWith_lower]
      exact hpath
    rw [Text.trimStart_rooted, Text.trimStart_of_unrooted hrest]
  · rw [Bool.not_eq_true] at hroot
    rw [pathKey_of_unrooted hroot, Text.trimStart_of_unrooted hroot]

namespace Index

/-! ### What a name is resolved to -/

/-- No class-like of an account has a path with a backslash in front. -/
def PathsUnrooted (known : Account) : Prop :=
  ∀ uri ds, known uri = some ds → ∀ d ∈ ds, d.isClassLike = true →
    Text.startsWith "\\" d.fqn = false

theorem pathsUnrooted_nil : PathsUnrooted (replay []) := by
  intro uri ds hknown
  cases hknown

/-- A file without such class-likes may be put beside the others. -/
theorem PathsUnrooted.put {known : Account} (h : PathsUnrooted known) {uri : String}
    {ds : List Declaration}
    (hpaths : ∀ d ∈ ds, d.isClassLike = true → Text.startsWith "\\" d.fqn = false) :
    PathsUnrooted (known.put (uri, ds)) := by
  intro other es hknown
  rcases Account.of_put hknown with ⟨rfl, rfl⟩ | hknown
  · exact hpaths
  · exact h other es hknown

theorem Reference.named_of_fits {name : String} {d : Declaration}
    (h : Reference.fits name d = true) :
    Text.lower d.name = Text.lower name ∨ pathKey d.fqn = pathKey name := by
  unfold Reference.fits at h
  split at h
  · exact .inr (Reference.samePath_iff.1 h)
  · exact .inl (Text.sameFold_iff.1 h)

section Filled

variable {ix : Index} (h : ix.IsFilled)

include h

/-- **What a name is resolved to has that name**, as its short name or as its path. -/
theorem IsFilled.named_of_mem_resolveName {name : String} {d : Declaration}
    (hd : d ∈ ix.resolveName name) :
    d ∈ declarationsOf ix.files ∧ d.isClassLike = true ∧
      (Text.lower d.name = Text.lower name ∨ pathKey d.fqn = pathKey name) := by
  have hlike : ∀ kind : DeclarationKind, kind.isClassLike = true → d.kind = kind →
      d.isClassLike = true := by
    rintro kind hkind rfl
    exact hkind
  unfold resolveName Lookups.resolveName at hd
  split at hd
  · change d ∈ ix.classLikesAt name at hd
    rw [h.classLikesAt_eq, Reference.classLikesAt, List.mem_filter, Bool.and_eq_true,
      Reference.samePath_iff] at hd
    exact ⟨hd.1, hd.2.1, .inr hd.2.2⟩
  · split at hd
    · rename_i found hfound
      obtain rfl := List.mem_singleton.1 hd
      change ix.classByName name = some d at hfound
      rw [h.classByName_eq, Reference.classByName] at hfound
      have hfits := List.find?_some hfound
      rw [Bool.and_eq_true, beq_iff_eq] at hfits
      exact ⟨List.mem_of_find?_eq_some hfound, hlike .cls rfl hfits.1,
        Reference.named_of_fits hfits.2⟩
    · change d ∈ ix.interfacesByName name at hd
      rw [h.interfacesByName_eq, Reference.interfacesByName, List.mem_filter, Bool.and_eq_true,
        beq_iff_eq] at hd
      exact ⟨hd.1, hlike .interface rfl hd.2.1, Reference.named_of_fits hd.2.2⟩

/-- What a name of a literal is resolved to is recognised by that name. -/
theorem IsFilled.isNamedIn_of_mem_resolveName
    (hpaths : ∀ d ∈ declarationsOf ix.files, d.isClassLike = true →
      Text.startsWith "\\" d.fqn = false)
    {literal name : String} (hname : name ∈ Text.splitNonEmpty '|' literal) {d : Declaration}
    (hd : d ∈ ix.resolveName name) : (d.isClassLike && d.isNamedIn literal) = true := by
  obtain ⟨hmem, hlike, hnamed⟩ := h.named_of_mem_resolveName hd
  rw [hlike, Bool.true_and, Declaration.isNamedIn, List.any_eq_true]
  refine ⟨name, List.mem_of_mem_filter hname, ?_⟩
  rw [Bool.or_eq_true]
  exact hnamed.imp beq_iff_eq.2 (sameFold_trimStart_of_pathKey (hpaths d hmem hlike))

/-- **The builder is dropped and nothing else**: what is recognised among the declarations that the
key of a mock stands for is what its names are resolved to. -/
theorem IsFilled.filter_resolveKey_mock
    (hpaths : ∀ d ∈ declarationsOf ix.files, d.isClassLike = true →
      Text.startsWith "\\" d.fqn = false)
    {signature : String} (hsignature : signature ∈ CallKind.mockSignatures)
    (binder literal : String) :
    (ix.resolveKey binder (VirtualType.toKey (.mock signature literal))).filter
        (fun d => d.isClassLike && d.isNamedIn literal)
      = ((Text.splitNonEmpty '|' literal).flatMap ix.resolveName).eraseDups := by
  obtain ⟨hstatic, -⟩ := CallKind.marks_of_mem_mockSignatures hsignature
  have hbuilder : (ix.bySignature signature).filter
      (fun d => d.isClassLike && d.isNamedIn literal) = [] := by
    refine List.filter_eq_nil_iff.2 fun d hd => ?_
    simp [h.isClassLike_of_mem_bySignature hstatic hd]
  have hnames : ((Text.splitNonEmpty '|' literal).flatMap ix.resolveName).filter
      (fun d => d.isClassLike && d.isNamedIn literal)
        = (Text.splitNonEmpty '|' literal).flatMap ix.resolveName := by
    refine List.filter_eq_self.2 fun d hd => ?_
    obtain ⟨name, hname, hd⟩ := List.mem_flatMap.1 hd
    exact h.isNamedIn_of_mem_resolveName hpaths hname hd
  rw [resolveKey_mock ix hsignature, ← eraseDups_filter, List.filter_append, hbuilder, hnames,
    List.nil_append]

/-- Where the literal of a mock is found, what its names are resolved to is answered. -/
theorem IsFilled.literalTargets_eq
    (hpaths : ∀ d ∈ declarationsOf ix.files, d.isClassLike = true →
      Text.startsWith "\\" d.fqn = false)
    {a : Analysis} {offset : Nat} {found : Call} (hfound : a.mockAt offset = some found)
    {signature literal : String} (hsignature : signature ∈ CallKind.mockSignatures)
    (hkey : found.key = some (VirtualType.toKey (.mock signature literal))) (binder : String) :
    ix.literalTargets binder a offset
      = ((Text.splitNonEmpty '|' literal).flatMap ix.resolveName).eraseDups := by
  rw [literalTargets, hfound, Option.bind_some, hkey]
  dsimp only
  rw [VirtualType.parse_mockKey hsignature]
  exact h.filter_resolveKey_mock hpaths hsignature binder literal

end Filled

/-! ### What is answered -/

/-- What is answered at an offset in a literal. -/
structure NamesListed (ix : Index) (binder : String) (a : Analysis) (offset : Nat)
    (literal : String) : Prop where
  /-- The targets are what the names of the literal are resolved to, each at its first
  occurrence. -/
  targets_eq : ix.literalTargets binder a offset
    = ((Text.splitNonEmpty '|' literal).flatMap ix.resolveName).eraseDups
  /-- Nothing a name is resolved to is left out, and nothing else is let through. -/
  mem_iff : ∀ d, d ∈ ix.literalTargets binder a offset ↔
    ∃ name ∈ Text.splitNonEmpty '|' literal, d ∈ ix.resolveName name
  /-- No target is listed twice. -/
  once : (ix.literalTargets binder a offset).Nodup
  /-- Where there are none, no method is answered in their place. -/
  answered : ix.targets binder a offset = ix.literalTargets binder a offset

/-- Where the literal of a mock is found no method is answered. -/
theorem targets_of_mockAt {uri text : String} {offset : Nat} {found : Call}
    (hfound : (Document.ofText uri text).analysis.mockAt offset = some found) (ix : Index)
    (binder : String) :
    ix.targets binder (Document.ofText uri text).analysis offset
      = ix.literalTargets binder (Document.ofText uri text).analysis offset := by
  rw [targets]
  split
  · rename_i hnone
    rw [hnone, methodTargets]
    cases hname : (Document.ofText uri text).analysis.callAtName offset with
    | none => rfl
    | some other =>
        rw [Document.mockAt_of_callAtName hname] at hfound
        cases hfound
  · rfl

/-- **What is answered in the literal of every recorded mock**, after any history of the index. -/
theorem literalTargets_listed (changes : List Change) (hpaths : PathsUnrooted (replay changes))
    (binder uri text : String) (call : Call)
    (hcall : call ∈ (Document.ofText uri text).analysis.calls.toList) (signature literal : String)
    (hmock : call.key.bind VirtualType.parse = some (.mock signature literal)) (offset : Nat)
    (hoffset : call.literalSpan.any (·.contains offset) = true) :
    NamesListed (run changes) binder (Document.ofText uri text).analysis offset literal := by
  have hrun := represents_run changes
  have hunrooted : ∀ d ∈ declarationsOf (run changes).files, d.isClassLike = true →
      Text.startsWith "\\" d.fqn = false := by
    intro d hd
    obtain ⟨uri, ds, hknown, hd⟩ := hrun.mem_declarationsOf hd
    exact hpaths uri ds hknown d hd
  -- the call that is found mocks the same names
  have hkind : call.kind? = some .mock := by
    rw [Call.kind?, hmock]
    rfl
  obtain ⟨t, ht, names, hmocks⟩ := Document.exists_mocks hcall hkind
  have hnames : names = literal := by
    obtain ⟨signature', hsignature', hkey⟩ := hmocks.key
    rw [hkey, Option.bind_some, VirtualType.parse_mockKey hsignature', Option.some.injEq,
      VirtualType.mock.injEq] at hmock
    exact hmock.2
  subst hnames
  obtain ⟨found, signature', hfound, hsignature', hkey⟩ :=
    Document.exists_mockAt hcall ht hmocks hoffset
  have htargets := hrun.filled.literalTargets_eq hunrooted hfound hsignature' hkey binder
  refine ⟨htargets, fun d => ?_, ?_, targets_of_mockAt hfound _ binder⟩
  · rw [htargets, List.mem_eraseDups, List.mem_flatMap]
  · rw [htargets]
    exact nodup_eraseDups _

/-- A union with an empty segment that names one class by two spellings of its path and an interface
by its short name; the builder is known to the index. -/
theorem literalTargets_listed_union :
    let declared (kind : DeclarationKind) (name fqn : String) : Declaration :=
      ⟨kind, name, fqn, none, false, "file:///a.php", ⟨2, 6⟩⟩
    let user := declared .cls "User" "App\\User"
    let store := declared .interface "Store" "App\\Store"
    let builder : Declaration :=
      ⟨.method, "mock", "Phake::mock", some "Phake", true, "file:///p.php", ⟨2, 22⟩⟩
    let changes : List Change :=
      [.update "file:///a.php" [user, store], .update "file:///p.php" [builder]]
    let literal := "\\App\\USER|store||\\App\\User"
    let a := (Document.ofText "file:///t.php" ("<?php Phake::mock('" ++ literal ++ "');")).analysis
    PathsUnrooted (replay changes) ∧ NamesListed (run changes) "Binder" a 22 literal ∧
      (run changes).literalTargets "Binder" a 22 = [user, store] ∧
      (run changes).bySignature "#M#C\\Phake.mock" = [builder] := by
  intro declared user store builder changes literal a
  have hpaths : PathsUnrooted (replay changes) :=
    (pathsUnrooted_nil.put (by decide +kernel)).put (by decide +kernel)
  let call : Call := ⟨⟨6, 47⟩, ⟨13, 17⟩, "mock", "#M#C\\Phake.mock", some ⟨19, 45⟩, [],
    some (VirtualType.toKey (.mock "#M#C\\Phake.mock" literal))⟩
  exact ⟨hpaths, literalTargets_listed changes hpaths "Binder" "file:///t.php"
    ("<?php Phake::mock('" ++ literal ++ "');") call (by decide +kernel) "#M#C\\Phake.mock" literal
    (by decide +kernel) 22 (by decide +kernel), by decide +kernel, by decide +kernel⟩

/-- A class-like whose path has a backslash in front is resolved and not recognised again. -/
example :
    let rooted : Declaration :=
      ⟨.cls, "User", "\\App\\User", none, false, "file:///a.php", ⟨2, 6⟩⟩
    let ix := run [.update "file:///a.php" [rooted]]
    let a := (Document.ofText "file:///t.php" "<?php Phake::mock('\\App\\User');").analysis
    ix.resolveName "\\App\\User" = [rooted] ∧ ix.literalTargets "Binder" a 22 = [] := by
  decide +kernel

end Index

end MockLens
