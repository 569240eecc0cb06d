/-
**Method targets: which places a method call leads to.**

On the name of a method a definition answers with one method for each class-like the receiver stands
for (`MockLens/Definition.lean`).  The method is looked up by the path of the class-like, and the
file the class-like is in takes no part in that.  As long as one file declares a path the method is
the one of that class-like.  Where several files declare class-likes of one path, the receiver
stands for all of them, but for each the same method is found, the first of that name in the order
of the files: it is answered as often as there are such class-likes, and the methods of the other
files are not answered at all.

Main definitions:

* `Declaration.DeclaresInFile` — a method that a class-like declares in its own file;
* `Index.PlacesDiffer` — an index in which two methods never have one place;
* `Index.MethodsListed` — what is answered for a method call.

Main results:

* `nodup_filterMap_iff` — when the values of a partial function on a list are distinct;
* `Index.methods_listed` — **what is answered for every method call**, after any history of the
  index;
* `Index.declared_twice_listed_twice` — a method that is answered twice in place of another one.
-/
import MockLens.Proofs.CallTokens
import MockLens.Proofs.OfferedMembers

set_option autoImplicit false

namespace MockLens

/-- If the values of a partial function are told apart by a key, they are distinct where the keys of
the elements with a value are. -/
theorem nodup_filterMap_iff {α β κ : Type} {f : α → Option β} {key : α → κ} {xs : List α}
    (h : ∀ x ∈ xs, ∀ y ∈ xs, ∀ b, f x = some b → ((f y).isSome ∧ key x = key y ↔ f y = some b)) :
    (xs.filterMap f).Nodup ↔ ((xs.filter fun x => (f x).isSome).map key).Nodup := by
  unfold List.Nodup
  rw [List.pairwise_filterMap, List.pairwise_map, List.pairwise_filter]
  refine List.Pairwise.iff_of_mem fun {x y} hx hy => ?_
  constructor
  · intro hvalues hfx hfy hkey
    obtain ⟨b, hb⟩ := Option.isSome_iff_exists.1 hfx
    exact hvalues b hb b ((h x hx y hy b hb).1 ⟨hfy, hkey⟩) rfl
  · rintro hkeys b hb c hc rfl
    have hsame := (h x hx y hy b hb).2 hc
    exact hkeys (by simp [hb]) hsame.1 hsame.2

/-- A class-like declares a method of a name, up to ASCII case, in the file it is in. -/
structure Declaration.DeclaresInFile (owner : Declaration) (name : String) (method : Declaration) :
    Prop where
  kind : method.kind = .method
  file : method.uri = owner.uri
  owned : method.owner = some owner.fqn
  named : Text.sameFold method.name name = true

namespace Index

/-! ### The methods of a path -/

namespace Reference

variable {ds : List Declaration} {path name : String} {m : Declaration}

theorem mem_methodsNamed :
    m ∈ methodsNamed ds path name ↔ m ∈ ds ∧ m.kind = .method ∧
      (∃ owner, m.owner = some owner ∧ pathKey owner = pathKey path) ∧
      Text.sameFold m.name name = true := by
  simp only [methodsNamed, methodsOf, List.mem_filter, Bool.and_eq_true, beq_iff_eq,
    samePath_iff, Option.any_eq_true, and_assoc]

/-- The methods of a name depend on the path up to case only. -/
theorem methodsNamed_congr {path' : String} (h : pathKey path = pathKey path') :
    methodsNamed ds path name = methodsNamed ds path' name := by
  rw [methodsNamed, methodsOf, methodsNamed, methodsOf]
  simp only [samePath_eq, h]

/-- The first method of a name tells the path of its owner, up to case. -/
theorem head?_methodsNamed_iff {path' : String} (h : (methodsNamed ds path name).head? = some m) :
    (methodsNamed ds path' name).head? = some m ↔ pathKey path = pathKey path' := by
  constructor
  · intro h'
    obtain ⟨-, -, ⟨owner, howner, hpath⟩, -⟩ := mem_methodsNamed.1 (List.mem_of_mem_head? h)
    obtain ⟨-, -, ⟨owner', howner', hpath'⟩, -⟩ := mem_methodsNamed.1 (List.mem_of_mem_head? h')
    obtain rfl := Option.some.inj (howner.symm.trans howner')
    exact hpath.symm.trans hpath'
  · intro hpath
    rw [← methodsNamed_congr hpath]
    exact h

end Reference

/-! ### Places -/

/-- The files of an index have canonical URIs, their declarations are in them, and two methods of
one file start at different positions. -/
structure PlacesDiffer (known : Account) : Prop where
  canonical : ∀ uri ds, known uri = some ds → Uri.normalize? uri = some uri
  file : ∀ uri ds, known uri = some ds → ∀ d ∈ ds, d.uri = uri
  position : ∀ uri ds, known uri = some ds → ∀ d ∈ ds, ∀ e ∈ ds, d.kind = .method →
    e.kind = .method → d.position = e.position → d = e

theorem placesDiffer_nil : PlacesDiffer (replay []) := by
  refine ⟨?_, ?_, ?_⟩
  all_goals
    intro uri ds hknown
    cases hknown

/-- A file whose methods have different places may be put beside the others, or in the place of its
former text. -/
theorem PlacesDiffer.put {known : Account} (h : PlacesDiffer known) {uri : String}
    {ds : List Declaration} (hcanonical : Uri.normalize? uri = some uri)
    (hfile : ∀ d ∈ ds, d.uri = uri)
    (hposition : ∀ d ∈ ds, ∀ e ∈ ds, d.kind = .method → e.kind = .method →
      d.position = e.position → d = e) : PlacesDiffer (known.put (uri, ds)) := by
  constructor
  · intro other es hknown
    rcases Account.of_put hknown with ⟨rfl, rfl⟩ | hknown
    · exact hcanonical
    · exact h.canonical other es hknown
  · intro other es hknown
    rcases Account.of_put hknown with ⟨rfl, rfl⟩ | hknown
    · exact hfile
    · exact h.file other es hknown
  · intro other es hknown
    rcases Account.of_put hknown with ⟨rfl, rfl⟩ | hknown
    · exact hposition
    · exact h.position other es hknown

section Places

variable {known : Account} (h : PlacesDiffer known) {d e : Declaration}

include h

/-- Every declaration has a place, in the file it is in. -/
theorem PlacesDiffer.location?_eq {uri : String} {ds : List Declaration}
    (hknown : known uri = some ds) (hd : d ∈ ds) :
    d.location? = some ⟨uri, d.position,
      ⟨d.position.line, d.position.character + d.name.toList.length⟩⟩ := by
  rw [Declaration.location?, h.file uri ds hknown d hd, h.canonical uri ds hknown]
  rfl

/-- Methods with one place are one method. -/
theorem PlacesDiffer.eq_of_location? {uris : List String} (hd : d ∈ declarationsIn known uris)
    (he : e ∈ declarationsIn known uris) (hdkind : d.kind = .method) (hekind : e.kind = .method)
    (hplace : d.location? = e.location?) : d = e := by
  obtain ⟨uri, ds, hknown, hd⟩ := exists_of_mem_declarationsIn hd
  obtain ⟨uri', ds', hknown', he⟩ := exists_of_mem_declarationsIn he
  rw [h.location?_eq hknown hd, h.location?_eq hknown' he, Option.some.injEq, Location.mk.injEq,
    Range.mk.injEq] at hplace
  obtain ⟨rfl, hposition, -⟩ := hplace
  obtain rfl := Option.some.inj (hknown.symm.trans hknown')
  exact h.position uri ds hknown d hd e he hdkind hekind hposition

theorem PlacesDiffer.isSome_location? {uris : List String} (hd : d ∈ declarationsIn known uris) :
    d.location?.isSome := by
  obtain ⟨uri, ds, hknown, hd⟩ := exists_of_mem_declarationsIn hd
  rw [h.location?_eq hknown hd]
  rfl

end Places

/-! ### What is answered -/

/-- What is answered for a method name, for class-likes of an index with the declarations `ds`. -/
structure MethodsListed (known : Account) (ds owners : List Declaration) (name : String)
    (targets : List Declaration) (answers : List Location) : Prop where
  /-- For each class-like, the first method of the name among those of its path. -/
  targets_eq : targets = owners.filterMap fun o => (Reference.methodsNamed ds o.fqn name).head?
  /-- What is answered are the places of these methods. -/
  answers_eq : answers = targets.filterMap Declaration.location?
  /-- The method that a class-like declares in its own file is a target exactly if it is the first
  of its name for that path. -/
  own_iff : ∀ owner ∈ owners, ∀ m ∈ ds, owner.DeclaresInFile name m →
    (m ∈ targets ↔ (Reference.methodsNamed ds owner.fqn name).head? = some m)
  /-- No target is listed twice exactly if the class-likes that have one differ in their paths. -/
  once_iff : targets.Nodup ↔
    ((owners.filter fun o => (Reference.methodsNamed ds o.fqn name).head?.isSome).map
      fun o => pathKey o.fqn).Nodup
  /-- Where two methods never have one place, every target is answered, and each as often as it is
  listed. -/
  places : PlacesDiffer known → (answers.Nodup ↔ targets.Nodup) ∧
    ∀ m ∈ ds, m.kind = .method → ∃ place, m.location? = some place ∧ (place ∈ answers ↔ m ∈ targets)

section Listing

variable {known : Account} {uris : List String} {owners targets : List Declaration} {name : String}

/-- The places of methods of an index are as distinct as the methods. -/
theorem PlacesDiffer.answers (h : PlacesDiffer known)
    (htargets : ∀ t ∈ targets, t ∈ declarationsIn known uris ∧ t.kind = .method) :
    ((targets.filterMap Declaration.location?).Nodup ↔ targets.Nodup) ∧
      ∀ m ∈ declarationsIn known uris, m.kind = .method → ∃ place, m.location? = some place ∧
        (place ∈ targets.filterMap Declaration.location? ↔ m ∈ targets) := by
  have hsome : ∀ t ∈ targets, t.location?.isSome := fun t ht =>
    h.isSome_location? (htargets t ht).1
  constructor
  · have hall : targets.filter (fun t => t.location?.isSome) = targets :=
      List.filter_eq_self.2 hsome
    have hiff := @nodup_filterMap_iff _ _ _ Declaration.location? id targets
    rw [hall, List.map_id] at hiff
    refine hiff fun t ht u hu place hplace => ?_
    constructor
    · rintro ⟨-, rfl⟩
      exact hplace
    · intro hsame
      exact ⟨hsome u hu, h.eq_of_location? (htargets t ht).1 (htargets u hu).1 (htargets t ht).2
        (htargets u hu).2 (hplace.trans hsame.symm)⟩
  · intro m hm hkind
    obtain ⟨place, hplace⟩ := Option.isSome_iff_exists.1 (h.isSome_location? hm)
    refine ⟨place, hplace, ?_⟩
    rw [List.mem_filterMap]
    constructor
    · rintro ⟨t, ht, hsame⟩
      rwa [h.eq_of_location? hm (htargets t ht).1 hkind (htargets t ht).2
        (hplace.trans hsame.symm)]
    · intro hmem
      exact ⟨m, hmem, hplace⟩

theorem methodsListed_filterMap :
    MethodsListed known (declarationsIn known uris) owners name
      (owners.filterMap fun o =>
        (Reference.methodsNamed (declarationsIn known uris) o.fqn name).head?)
      ((owners.filterMap fun o =>
        (Reference.methodsNamed (declarationsIn known uris) o.fqn name).head?).filterMap
          Declaration.location?) where
  targets_eq := rfl
  answers_eq := rfl
  own_iff owner howner m hm hown := by
    rw [List.mem_filterMap]
    constructor
    · rintro ⟨o, -, hfirst⟩
      obtain ⟨-, -, ⟨path, hpath, hsame⟩, -⟩ :=
        Reference.mem_methodsNamed.1 (List.mem_of_mem_head? hfirst)
      obtain rfl := Option.some.inj (hown.owned.symm.trans hpath)
      exact (Reference.head?_methodsNamed_iff hfirst).2 hsame.symm
    · intro hfirst
      exact ⟨owner, howner, hfirst⟩
  once_iff := by
    refine nodup_filterMap_iff fun o _ o' _ m hfirst => ?_
    rw [Reference.head?_methodsNamed_iff hfirst, and_iff_right_iff_imp]
    intro hpath
    rw [(Reference.head?_methodsNamed_iff hfirst).2 hpath]
    rfl
  places h := by
    refine h.answers fun t ht => ?_
    obtain ⟨o, -, hfirst⟩ := List.mem_filterMap.1 ht
    obtain ⟨hmem, hkind, -⟩ := Reference.mem_methodsNamed.1 (List.mem_of_mem_head? hfirst)
    exact ⟨hmem, hkind⟩

end Listing

/-- **What is answered for every method call** of every text, after any history of the index. -/
theorem methods_listed (changes : List Change) (binder uri text : String) (offset : Nat)
    (call : Call) (hcall : (Document.ofText uri text).analysis.callAtName offset = some call) :
    ∃ uris, Listed (replay changes) uris ∧
      MethodsListed (replay changes) (declarationsIn (replay changes) uris)
        ((run changes).owners binder call.receiverTypes) call.method
        ((run changes).targets binder (Document.ofText uri text).analysis offset)
        ((run changes).definitions binder (Document.ofText uri text).analysis offset) := by
  have hrun := represents_run changes
  refine ⟨(run changes).files.keys, hrun.listed, ?_⟩
  have hliteral : (run changes).literalTargets binder (Document.ofText uri text).analysis offset
      = [] := by
    rw [literalTargets, Document.mockAt_of_callAtName hcall]
    rfl
  have htargets : (run changes).targets binder (Document.ofText uri text).analysis offset
      = ((run changes).owners binder call.receiverTypes).filterMap fun o =>
          (Reference.methodsNamed (declarationsIn (replay changes) (run changes).files.keys) o.fqn
            call.method).head? := by
    rw [targets, hliteral]
    simp only [methodTargets, hcall, methodsNamed_eq, hrun.filled.findMethod_eq,
      hrun.declarationsOf_eq]
  rw [definitions, htargets]
  exact methodsListed_filterMap

/-- Two classes that are mocked together and write the name of the method differently. -/
theorem methods_listed_two_classes :
    let declared (uri cls method : String) : List Declaration :=
      [⟨.cls, cls, cls, none, false, uri, ⟨2, 6⟩⟩,
        ⟨.method, method, cls ++ "::" ++ method, some cls, false, uri, ⟨2, 22⟩⟩]
    let place (uri : String) : Location := ⟨uri, ⟨⟨2, 22⟩, ⟨2, 26⟩⟩⟩
    let changes : List Change :=
      [.update "file:///a.php" (declared "file:///a.php" "Depot" "save"),
        .update "file:///b.php" (declared "file:///b.php" "Shop" "Save")]
    let text := "<?php $m = Phake::mock('Shop|Depot'); $m->save();"
    let a := (Document.ofText "file:///t.php" text).analysis
    PlacesDiffer (replay changes) ∧
      (run changes).definitions "Binder" a 43 = [place "file:///b.php", place "file:///a.php"] ∧
      ∃ (call : Call) (uris : List String), Listed (replay changes) uris ∧
        MethodsListed (replay changes) (declarationsIn (replay changes) uris)
          ((run changes).owners "Binder" call.receiverTypes) "save"
          ((run changes).targets "Binder" a 43) ((run changes).definitions "Binder" a 43) := by
  intro declared place changes text a
  have hplaces : PlacesDiffer (replay changes) :=
    (placesDiffer_nil.put (by decide +kernel) (by decide +kernel) (by decide +kernel)).put
      (by decide +kernel) (by decide +kernel) (by decide +kernel)
  let types := ["<01>#M#C\\Phake.mock~Shop|Depot"]
  let call : Call := ⟨⟨38, 48⟩, ⟨42, 46⟩, "save",
    "#M#<01>#M#C\\Phake.mock~Shop|Depot.save", none, types, none⟩
  have hcall : a.callAtName 43 = some call := by decide +kernel
  have hliteral : (run changes).literalTargets "Binder" a 43 = [] := by
    rw [literalTargets, Document.mockAt_of_callAtName hcall]
    rfl
  have hlisted := methods_listed changes "Binder" "file:///t.php" text 43 call hcall
  refine ⟨hplaces, ?_, call, hlisted⟩
  have htargets : ((run changes).methodsNamed "Binder" types "save").filterMap
      Declaration.location? = [place "file:///b.php", place "file:///a.php"] := by decide +kernel
  rw [definitions, targets, hliteral]
  simpa only [methodTargets, hcall] using htargets

/-- **A method that is answered twice in place of another one.**  Two files declare the class that
is mocked.  The receiver stands for both classes, but for the second the method of the first is
found again. -/
theorem declared_twice_listed_twice :
    let cls (uri : String) : Declaration := ⟨.cls, "User", "App\\User", none, false, uri, ⟨2, 6⟩⟩
    let save (uri : String) : Declaration :=
      ⟨.method, "save", "App\\User::save", some "App\\User", false, uri, ⟨2, 22⟩⟩
    let place (uri : String) : Location := ⟨uri, ⟨⟨2, 22⟩, ⟨2, 26⟩⟩⟩
    let first := "file:///a.php"
    let second := "file:///b.php"
    let types := ["<01>#M#C\\Phake.mock~\\App\\User"]
    let ix := run [.update first [cls first, save first], .update second [cls second, save second]]
    let a := (Document.ofText "file:///t.php"
      "<?php $m = Phake::mock('\\App\\User'); $m->save();").analysis
    (a.callAtName 42).map Call.receiverTypes = some types ∧
      ix.owners "Binder" types = [cls first, cls second] ∧
      (save second).location? = some (place second) ∧
      ix.definitions "Binder" a 42 = [place first, place first] := by
  intro cls save place first second types ix a
  exact ⟨by decide +kernel, by decide +kernel, by decide +kernel, by decide +kernel⟩

end Index

end MockLens
