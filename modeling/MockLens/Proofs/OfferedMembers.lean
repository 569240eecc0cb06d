/-
**Offered members: completion and definition name the same methods.**

Behind an arrow the methods of all class-likes the receiver stands for are offered, and of methods
with one name only the first (`MockLens/Completion.lean`).  A definition looks for a method of one
name in each of these class-likes and takes the first of each (`MockLens/Definition.lean`).  Both
walk the same class-likes in the same order, so the first method that is found for a name is the
one that is offered: searching the list of all methods is searching the class-likes one after the
other.  The methods of the builder that the key of a mock stands for as well are no class-likes, and
nothing is found through them.

Main definitions:

* `Index.owners` — the class-likes that candidate types stand for;
* `Index.FirstDeclares` — the first of several class-likes that declares a method of a name;
* `Lookups.withoutBuilders` — lookups by which the signature of a static call names nothing;
* `Index.Describes` — an offer that describes a method of a class-like;
* `Index.MembersAgree` — offers that agree with the methods a definition finds.

Main results:

* `find?_of_mem_distinctBy` — what is kept is the first element with its key;
* `Index.find?_found` — the first method of a name among all that are found;
* `Index.IsFilled.owners_withoutBuilders` — a class-like is never owed to a builder call;
* `Index.members_agree` — **completion and definition agree**, after any history of the index.
-/
import MockLens.Definition
import MockLens.Proofs.OfferedClasses

set_option autoImplicit false

namespace MockLens

/-- An element that is kept is the first with its key. -/
theorem find?_of_mem_distinctBy {α : Type} (key : α → String) {x : α} :
    ∀ {xs : List α}, x ∈ distinctBy key xs → xs.find? (fun y => key y == key x) = some x
  | [], h => by cases h
  | y :: ys, h => by
      rw [distinctBy_cons, List.mem_cons] at h
      rcases h with rfl | h
      · rw [List.find?_cons_of_pos (by simp)]
      · have hlater := find?_of_mem_distinctBy key h
        have hne : key x ≠ key y := by
          simpa using (List.mem_filter.1 ((sublist_distinctBy _ _).subset h)).2
        rw [List.find?_filter] at hlater
        rw [List.find?_cons_of_neg (by simpa using hne.symm), ← hlater]
        congr 1
        funext z
        by_cases hz : key z = key x <;> simp [hz, hne]
termination_by xs => xs.length
decreasing_by exact Nat.lt_succ_of_le (List.length_filter_le _ _)

namespace Index

/-! ### The methods that are found -/

section Found

variable (ix : Index)

/-- The class-likes that candidate types stand for. -/
def owners (binder : String) (types : List String) : List Declaration :=
  (ix.resolveTypes binder types).filter Declaration.isClassLike

/-- The methods of class-likes, each with the class-like it was found in. -/
def found (owners : List Declaration) : List (Declaration × Declaration) :=
  owners.flatMap fun owner => (ix.methodsOf owner.fqn).map fun method => (owner, method)

/-- What is compared to tell whether a method was found before. -/
def foundName (pair : Declaration × Declaration) : String := Text.lower pair.2.name

theorem memberItems_eq (binder : String) (types : List String) :
    ix.memberItems binder types
      = (distinctBy foundName (ix.found (ix.owners binder types))).map fun pair =>
          methodItem pair.1 pair.2 := rfl

theorem methodsNamed_eq (binder : String) (types : List String) (name : String) :
    ix.methodsNamed binder types name
      = (ix.owners binder types).filterMap fun owner => ix.findMethod owner.fqn name := rfl

/-- The first of several class-likes that declares a method of a name, and the method. -/
structure FirstDeclares (owners : List Declaration) (name : String) (owner method : Declaration) :
    Prop where
  declares : ix.findMethod owner.fqn name = some method
  first : ∃ earlier later, owners = earlier ++ owner :: later ∧
    ∀ o ∈ earlier, ix.findMethod o.fqn name = none

/-- **Searching all methods for a name is searching the class-likes one after the other.** -/
theorem find?_found (owners : List Declaration) (name : String) :
    (ix.found owners).find? (fun pair => foundName pair == Text.lower name)
      = owners.findSome? fun owner => (ix.findMethod owner.fqn name).map fun m => (owner, m) := by
  rw [found, List.find?_flatMap]
  congr 1
  funext owner
  rw [List.find?_map]
  rfl

theorem find?_found_eq_some_iff {owners : List Declaration} {name : String}
    {owner method : Declaration} :
    (ix.found owners).find? (fun pair => foundName pair == Text.lower name) = some (owner, method) ↔
      ix.FirstDeclares owners name owner method := by
  rw [find?_found, List.findSome?_eq_some_iff]
  simp only [Option.map_eq_some_iff, Prod.mk.injEq, Option.map_eq_none_iff]
  constructor
  · rintro ⟨earlier, _, later, rfl, ⟨_, hfind, rfl, rfl⟩, hnone⟩
    exact ⟨hfind, earlier, later, rfl, hnone⟩
  · rintro ⟨hfind, earlier, later, hsplit, hnone⟩
    exact ⟨earlier, owner, later, hsplit, ⟨method, hfind, rfl, rfl⟩, hnone⟩

/-- The first target is what the first class-like declares. -/
theorem FirstDeclares.head?_filterMap {ix : Index} {owners : List Declaration} {name : String}
    {owner method : Declaration} (h : ix.FirstDeclares owners name owner method) :
    (owners.filterMap fun o => ix.findMethod o.fqn name).head? = some method := by
  obtain ⟨hfind, earlier, later, rfl, hnone⟩ := h
  rw [List.head?_filterMap]
  exact List.findSome?_eq_some_iff.2 ⟨earlier, owner, later, rfl, hfind, hnone⟩

/-- A name is among those that are found exactly when one of the class-likes declares it. -/
theorem mem_map_foundName_iff {owners : List Declaration} {name : String} :
    Text.lower name ∈ (ix.found owners).map foundName ↔
      (owners.filterMap fun o => ix.findMethod o.fqn name) ≠ [] := by
  have hsearch : Text.lower name ∈ (ix.found owners).map foundName ↔
      ((ix.found owners).find? fun pair => foundName pair == Text.lower name).isSome := by
    rw [List.find?_isSome, List.mem_map]
    simp only [beq_iff_eq]
  rw [hsearch, find?_found, List.findSome?_isSome_iff, ne_eq, List.filterMap_eq_nil_iff]
  simp [Option.ne_none_iff_isSome]

end Found

end Index

/-! ### Builder calls -/

namespace Lookups

/-- The same lookups, except that the signature of a static call names nothing. -/
def withoutBuilders (lk : Lookups) : Lookups :=
  { lk with
    bySignature := fun signature =>
      if Text.startsWith "#M#C" signature then [] else lk.bySignature signature }

/-- Among the class-likes nothing comes from the signature of a static call. -/
structure BuildersNameMethods (lk : Lookups) : Prop where
  notClassLike : ∀ signature, Text.startsWith "#M#C" signature = true →
    ∀ d ∈ lk.bySignature signature, d.isClassLike = false

section Builders

variable {lk : Lookups} (h : lk.BuildersNameMethods)

include h

theorem BuildersNameMethods.filter_resolveMock (signature className : String) :
    (lk.resolveMock signature className).filter Declaration.isClassLike
      = (lk.withoutBuilders.resolveMock signature className).filter Declaration.isClassLike := by
  rw [resolveMock, resolveMock, List.filter_append, List.filter_append]
  congr 1
  show _ = List.filter _ (if _ then _ else _)
  split
  · rename_i hstatic
    exact List.filter_eq_nil_iff.2 fun d hd => by simp [h.notClassLike signature hstatic d hd]
  · rfl

theorem BuildersNameMethods.filter_resolveMember (member : String) :
    (lk.resolveMember member).filter Declaration.isClassLike
      = (lk.withoutBuilders.resolveMember member).filter Declaration.isClassLike := by
  unfold resolveMember
  split
  · split
    · exact h.filter_resolveMock _ _
    · rfl
  · rfl

theorem BuildersNameMethods.filter_resolveKey (binder key : String) :
    (lk.resolveKey binder key).filter Declaration.isClassLike
      = (lk.withoutBuilders.resolveKey binder key).filter Declaration.isClassLike := by
  have hmembers : ∀ ms : List String,
      (ms.flatMap lk.resolveMember).filter Declaration.isClassLike
        = (ms.flatMap lk.withoutBuilders.resolveMember).filter Declaration.isClassLike := by
    intro ms
    rw [List.filter_flatMap, List.filter_flatMap]
    exact List.flatMap_congr fun m _ => h.filter_resolveMember m
  unfold resolveKey
  split
  · rename_i v _
    unfold resolve
    rw [← eraseDups_filter, ← eraseDups_filter]
    congr 1
    cases v with
    | mock signature className => exact h.filter_resolveMock signature className
    | verification ms => exact hmembers ms
    | stub ms => exact hmembers ms
    | stubbedMethod => rfl
  · rfl

end Builders

end Lookups

namespace Index

theorem IsFilled.buildersNameMethods {ix : Index} (h : ix.IsFilled) :
    ix.lookups.BuildersNameMethods :=
  ⟨fun _ hstatic _ hd => h.isClassLike_of_mem_bySignature hstatic hd⟩

/-- **No class-like is owed to a builder call.** -/
theorem IsFilled.owners_withoutBuilders {ix : Index} (h : ix.IsFilled) (binder : String)
    (types : List String) :
    ix.owners binder types
      = ((types.flatMap (ix.lookups.withoutBuilders.resolveKey binder)).eraseDups).filter
          Declaration.isClassLike := by
  rw [owners, resolveTypes, ← eraseDups_filter, ← eraseDups_filter, List.filter_flatMap,
    List.filter_flatMap]
  congr 1
  exact List.flatMap_congr fun key _ => h.buildersNameMethods.filter_resolveKey binder key

/-! ### Agreement -/

/-- An offer is labelled with the method as it is spelled, and is detailed with the short name of
the class-like and with whether the method is static. -/
structure Describes (item : CompletionItem) (owner method : Declaration) : Prop where
  label : item.label = method.name
  inserted : item.insertText = some method.name
  detail_static : method.isStatic = true →
    item.detail = "static " ++ owner.name ++ "::" ++ method.name ++ "()"
  detail_plain : method.isStatic = false →
    item.detail = owner.name ++ "::" ++ method.name ++ "()"

theorem describes_methodItem (owner method : Declaration) :
    Describes (methodItem owner method) owner method where
  label := rfl
  inserted := rfl
  detail_static h := by rw [methodItem, if_pos h]
  detail_plain h := by rw [methodItem, h, if_neg Bool.false_ne_true, String.empty_append]

/-- Offers for a receiver agree with the methods a definition finds for it. -/
structure MembersAgree (ix : Index) (binder : String) (types : List String)
    (items : List CompletionItem) : Prop where
  /-- A name is offered, up to ASCII case, exactly when a call of it has a target. -/
  offered : ∀ name, (∃ item ∈ items, Text.sameFold item.label name = true) ↔
    ix.methodsNamed binder types name ≠ []
  /-- No name is offered twice, up to ASCII case. -/
  once : (items.map fun item => Text.lower item.label).Nodup
  /-- What is offered for a name is its first target, with the first class-like that declares it. -/
  described : ∀ item ∈ items, ∀ name, Text.sameFold item.label name = true →
    ∃ owner method, ix.FirstDeclares (ix.owners binder types) name owner method ∧
      (ix.methodsNamed binder types name).head? = some method ∧
      item = methodItem owner method ∧ Describes item owner method
  /-- The class-likes are the same if the signatures of builder calls name nothing. -/
  builders : ix.owners binder types
    = ((types.flatMap (ix.lookups.withoutBuilders.resolveKey binder)).eraseDups).filter
        Declaration.isClassLike

/-- The labels that are offered are the names that are found, each once. -/
theorem map_label_memberItems (ix : Index) (binder : String) (types : List String) :
    (ix.memberItems binder types).map (fun item => Text.lower item.label)
      = (distinctBy foundName (ix.found (ix.owners binder types))).map foundName := by
  rw [memberItems_eq, List.map_map]
  rfl

/-- **Completion and definition agree**, after any history of the index and for any candidate
types. -/
theorem members_agree (changes : List Change) (binder : String) (types : List String) :
    MembersAgree (run changes) binder types ((run changes).memberItems binder types) where
  offered name := by
    rw [methodsNamed_eq, ← mem_map_foundName_iff, ← mem_map_distinctBy_iff,
      ← map_label_memberItems, List.mem_map]
    simp only [Text.sameFold, beq_iff_eq]
  once := by
    rw [map_label_memberItems]
    exact nodup_map_distinctBy _ _
  described item hitem name hname := by
    rw [memberItems_eq] at hitem
    obtain ⟨⟨owner, method⟩, hkept, rfl⟩ := List.mem_map.1 hitem
    have hfirst := find?_of_mem_distinctBy foundName hkept
    have hsame : foundName (owner, method) = Text.lower name := beq_iff_eq.1 hname
    rw [hsame, find?_found_eq_some_iff] at hfirst
    exact ⟨owner, method, hfirst, hfirst.head?_filterMap, rfl, describes_methodItem owner method⟩
  builders := (represents_run changes).filled.owners_withoutBuilders binder types

/-- Of two methods that differ in case the one of the first class is offered; the second class adds
the other method it declares. -/
example :
    let cls (name : String) : Declaration :=
      ⟨.cls, name, name, none, false, "file:///a.php", ⟨0, 0⟩⟩
    let method (isStatic : Bool) (owner name : String) : Declaration :=
      ⟨.method, name, owner ++ "::" ++ name, some owner, isStatic, "file:///a.php", ⟨0, 0⟩⟩
    let ix := run [.update "file:///a.php" [cls "Depot", method false "Depot" "save",
      method false "Depot" "load", cls "Shop", method true "Shop" "Save"]]
    (ix.memberItems "Binder" ["<01>#M#C\\Phake.mock~Shop|Depot"]).map CompletionItem.detail
      = ["static Shop::Save()", "Depot::load()"] := by
  decide +kernel

end Index

end MockLens
