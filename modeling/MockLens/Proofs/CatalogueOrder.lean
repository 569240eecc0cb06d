/-
**The order of a catalogue.**

A catalogue is made from a table that files declarations under their short names in lower case
(`MockLens/Index.lean`), and nothing is promised about the order in which a table gives its entries.
The entries are sorted by short name and fully qualified name.  Declarations of different files may
agree in both, and a sort leaves those as they came; so it could matter how they came.

It does not.  A stable sort depends only on the order among the elements that tie, and declarations
that tie have one short name, so they are filed under one key: they are all in one entry, and there
they stand in the order of the files.  Whatever the order of the entries, the catalogue is the
stable sort of the declarations in the order of the URIs.

Main definitions:

* `ties` — neither of two elements comes before the other;
* `Index.Tables.nameEntries` — the entries that a catalogue is made from;
* `Index.StablySorted` — a list is the stable sort of another one.

Main results:

* `filter_ties_mergeSort`, `eq_of_filter_ties` — sorting keeps the elements that tie with a given one
  in order, and a sorted list is determined by these;
* `Index.filter_flatten_entries` — the declarations of one name in the entries of a table, whatever
  the order of the entries;
* `Index.StablySorted.unique` — a list has only one stable sort;
* `Index.catalogue_any_order` — **the catalogue does not depend on the order of the entries.**
-/
import MockLens.Proofs.OfferedClasses

set_option autoImplicit false

namespace MockLens

/-! ### Stable sorts -/

section Stable

variable {α : Type} {le : α → α → Bool}

/-- Neither of two elements comes before the other. -/
def ties (le : α → α → Bool) (a b : α) : Bool := le a b && le b a

/-- Sorting leaves the elements that tie with a given one in the order in which they came. -/
theorem filter_ties_mergeSort (htrans : ∀ a b c, le a b = true → le b c = true → le a c = true)
    (htotal : ∀ a b, (le a b || le b a) = true) (a : α) (xs : List α) :
    (xs.mergeSort le).filter (ties le a) = xs.filter (ties le a) := by
  have hpairwise : (xs.filter (ties le a)).Pairwise fun b c => le b c = true := by
    refine List.pairwise_of_forall_mem_list fun b hb c hc => ?_
    have hb := (List.mem_filter.1 hb).2
    have hc := (List.mem_filter.1 hc).2
    rw [ties, Bool.and_eq_true] at hb hc
    exact htrans b a c hb.2 hc.1
  have hsub : (xs.filter (ties le a)).Sublist ((xs.mergeSort le).filter (ties le a)) := by
    have hsorted := List.sublist_mergeSort htrans htotal hpairwise List.filter_sublist
    simpa using hsorted.filter (ties le a)
  exact (hsub.eq_of_length ((List.mergeSort_perm xs le).filter _).length_eq.symm).symm

section Total

variable (htotal : ∀ a b, (le a b || le b a) = true)

include htotal

theorem ties_self (a : α) : ties le a a = true := by
  simpa [ties] using htotal a a

theorem mem_of_filter_ties {xs ys : List α}
    (h : ∀ a, xs.filter (ties le a) = ys.filter (ties le a)) {a : α} (ha : a ∈ xs) : a ∈ ys := by
  have hfilter : a ∈ xs.filter (ties le a) := List.mem_filter.2 ⟨ha, ties_self htotal a⟩
  rw [h a] at hfilter
  exact List.mem_of_mem_filter hfilter

/-- The first element of a sorted list comes before every element that ties with one of it. -/
theorem le_of_mem_cons {x y : α} {xs : List α}
    (hxs : (x :: xs).Pairwise fun a b => le a b = true) (hy : y ∈ x :: xs) : le x y = true := by
  rcases List.mem_cons.1 hy with rfl | hy
  · simpa using htotal y y
  · exact (List.pairwise_cons.1 hxs).1 y hy

/-- **A sorted list is determined by the elements that tie with each other.** -/
theorem eq_of_filter_ties {xs ys : List α} (hxs : xs.Pairwise fun a b => le a b = true)
    (hys : ys.Pairwise fun a b => le a b = true)
    (h : ∀ a, xs.filter (ties le a) = ys.filter (ties le a)) : xs = ys := by
  induction xs generalizing ys with
  | nil =>
      cases ys with
      | nil => rfl
      | cons y ys => exact absurd (mem_of_filter_ties htotal (fun a => (h a).symm)
          List.mem_cons_self) List.not_mem_nil
  | cons x xs ih =>
      cases ys with
      | nil => exact absurd (mem_of_filter_ties htotal h List.mem_cons_self) List.not_mem_nil
      | cons y ys =>
          -- each of the two first elements is in the other list, so they tie and are equal
          have hxy : le x y = true := le_of_mem_cons htotal hxs
            (mem_of_filter_ties htotal (fun a => (h a).symm) List.mem_cons_self)
          have hyx : le y x = true := le_of_mem_cons htotal hys
            (mem_of_filter_ties htotal h List.mem_cons_self)
          have hfirst := h x
          rw [List.filter_cons_of_pos (ties_self htotal x),
            List.filter_cons_of_pos (by simp [ties, hxy, hyx]), List.cons.injEq] at hfirst
          obtain ⟨rfl, -⟩ := hfirst
          congr 1
          refine ih (List.pairwise_cons.1 hxs).2 (List.pairwise_cons.1 hys).2 fun a => ?_
          have ha := h a
          by_cases hax : ties le a x = true <;> simpa [hax] using ha

end Total

end Stable

/-- Of the entries under distinct keys, all but one of which give nothing, one gives everything. -/
theorem flatMap_eq_of_unique {α β : Type} {entries : List (String × α)} {f : String × α → List β}
    (hnodup : (entries.map Prod.fst).Nodup) {entry : String × α} (hentry : entry ∈ entries)
    (hf : ∀ e ∈ entries, e.1 ≠ entry.1 → f e = []) : entries.flatMap f = f entry := by
  induction entries with
  | nil => cases hentry
  | cons e entries ih =>
      rw [List.map_cons, List.nodup_cons] at hnodup
      obtain ⟨hnew, hnodup⟩ := hnodup
      obtain ⟨hfirst, hrest⟩ := List.forall_mem_cons.1 hf
      rw [List.flatMap_cons]
      rcases List.mem_cons.1 hentry with rfl | hentry
      · have hnone : entries.flatMap f = [] := by
          refine List.flatMap_eq_nil_iff.2 fun e he => hrest e he ?_
          exact fun hsame => hnew (hsame ▸ List.mem_map_of_mem he)
        rw [hnone, List.append_nil]
      · have hother : e.1 ≠ entry.1 := fun hsame => hnew (hsame ▸ List.mem_map_of_mem hentry)
        rw [hfirst hother, List.nil_append, ih hnodup hentry hrest]

namespace Index

/-! ### Entries in any order -/

/-- The entries that the catalogue of a kind is made from. -/
def Tables.nameEntries (t : Tables) : DeclarationKind → List (String × List Declaration)
  | .cls => t.classesByName.toList
  | .interface => t.interfacesByName.toList
  | _ => []

theorem catalogue_eq_sortedGroups (ix : Index) (kind : DeclarationKind) :
    ix.catalogue kind = sortedGroups ((ix.tables.nameEntries kind).map Prod.snd) := by
  cases kind <;> simp [catalogue, Tables.nameEntries, sortedGroups]

/-- Declarations that are all filed under one key, if at all, are those of one entry, whatever the
order of the entries. -/
theorem filter_flatten_entries {table : Tables → Table} {key : Declaration → Option String}
    (h : FiledUnder table key) (ds : List Declaration) {entries : List (String × List Declaration)}
    (hentries : entries.Perm (table (Tables.ofDeclarations ds)).toList) {p : Declaration → Bool}
    {k : String} (hkey : ∀ d, p d = true → key d = none ∨ key d = some k) :
    (entries.map Prod.snd).flatten.filter p = (ds.filter fun d => (key d).isSome).filter p := by
  have hfiled : ∀ e ∈ entries, e.2 = ds.filter fun d => key d = some e.1 := by
    intro e he
    have hget := Std.TreeMap.mem_toList_iff_getElem?_eq_some.1 (hentries.mem_iff.1 he)
    rw [← entry_ofDeclarations h, Table.entry, hget]
    rfl
  have hnodup : (entries.map Prod.fst).Nodup := by
    refine (hentries.map Prod.fst).nodup_iff.2 ?_
    rw [Std.TreeMap.map_fst_toList_eq_keys]
    exact Std.TreeMap.nodup_keys
  -- what an entry under another key holds is not accepted
  have hother : ∀ e ∈ entries, e.1 ≠ k → e.2.filter p = [] := by
    intro e he hne
    rw [hfiled e he, List.filter_filter, List.filter_eq_nil_iff]
    intro d _ hd
    simp only [Bool.and_eq_true, decide_eq_true_eq] at hd
    rcases hkey d hd.1 with hnone | hsome
    · simp [hnone] at hd
    · exact hne (Option.some.inj (hd.2.symm.trans hsome))
  have hds : (ds.filter fun d => (key d).isSome).filter p
      = (ds.filter fun d => key d = some k).filter p := by
    rw [List.filter_filter, List.filter_filter]
    refine List.filter_congr fun d _ => ?_
    by_cases hd : p d = true
    · rcases hkey d hd with hd' | hd' <;> simp [hd']
    · simp [hd]
  have hflat : (entries.map Prod.snd).flatten.filter p = entries.flatMap fun e => e.2.filter p := by
    rw [List.filter_flatten, List.map_map, List.flatMap_def]
    rfl
  rw [hflat, hds]
  by_cases hk : ∃ e ∈ entries, e.1 = k
  · obtain ⟨e, he, rfl⟩ := hk
    rw [flatMap_eq_of_unique hnodup he hother, hfiled e he]
  · -- no entry is filed under the key, so no declaration is
    have hnone : (table (Tables.ofDeclarations ds))[k]? = none := by
      refine Option.eq_none_iff_forall_ne_some.2 fun group hget => hk ⟨(k, group), ?_, rfl⟩
      exact hentries.mem_iff.2 (Std.TreeMap.mem_toList_iff_getElem?_eq_some.2 hget)
    rw [← entry_ofDeclarations h, Table.entry, hnone]
    exact List.flatMap_eq_nil_iff.2 fun e he => hother e he fun hsame => hk ⟨e, he, hsame⟩

/-! ### The catalogue -/

/-- The declaration has the given short name and fully qualified name. -/
def Named (name fqn : String) (d : Declaration) : Bool := d.name == name && d.fqn == fqn

/-- Declarations tie in alphabetical order exactly if they agree in both names. -/
theorem ties_alphabetical (a : Declaration) : ties alphabetical a = Named a.name a.fqn := by
  funext b
  rw [Bool.eq_iff_iff, ties, Bool.and_eq_true, alphabetical_iff, alphabetical_iff,
    ← le_antisymm_iff, Named, Bool.and_eq_true, beq_iff_eq, beq_iff_eq]
  simp [eq_comm]

/-- `sorted` is the stable sort of `ds` by short name and fully qualified name. -/
structure StablySorted (ds sorted : List Declaration) : Prop where
  /-- No declaration is lost or added. -/
  perm : sorted.Perm ds
  /-- The short names ascend, and among equal short names the fully qualified ones. -/
  order : sorted.Pairwise fun a b => a.name < b.name ∨ a.name = b.name ∧ a.fqn ≤ b.fqn
  /-- Declarations that agree in both names stand in the order in which they came. -/
  stable : ∀ name fqn, sorted.filter (Named name fqn) = ds.filter (Named name fqn)

theorem alphabetical_iff_order {a b : Declaration} :
    alphabetical a b = true ↔ a.name < b.name ∨ a.name = b.name ∧ a.fqn ≤ b.fqn := by
  rw [alphabetical_iff, Prod.Lex.toLex_le_toLex]

theorem stablySorted_mergeSort (ds : List Declaration) :
    StablySorted ds (ds.mergeSort alphabetical) where
  perm := List.mergeSort_perm ds alphabetical
  order := (List.pairwise_mergeSort alphabetical_trans alphabetical_total ds).imp
    alphabetical_iff_order.1
  stable name fqn := by
    have hties := filter_ties_mergeSort alphabetical_trans alphabetical_total
      ⟨.cls, name, fqn, none, false, "", ⟨0, 0⟩⟩ ds
    rwa [ties_alphabetical] at hties

/-- **A list has only one stable sort.** -/
theorem StablySorted.unique {ds sorted sorted' : List Declaration} (h : StablySorted ds sorted)
    (h' : StablySorted ds sorted') : sorted = sorted' := by
  refine eq_of_filter_ties alphabetical_total (h.order.imp alphabetical_iff_order.2)
    (h'.order.imp alphabetical_iff_order.2) fun a => ?_
  rw [ties_alphabetical, h.stable, h'.stable]

/-- Sorted groups depend only on the declarations of each name, and so on the files. -/
theorem sortedGroups_eq {table : Tables → Table} {key : Declaration → Option String}
    (h : FiledUnder table key) {kind : DeclarationKind}
    (hkey : ∀ d, key d = if d.kind = kind then some (Text.lower d.name) else none)
    (ds : List Declaration) {entries : List (String × List Declaration)}
    (hentries : entries.Perm (table (Tables.ofDeclarations ds)).toList) :
    sortedGroups (entries.map Prod.snd)
      = (ds.filter fun d => d.kind = kind).mergeSort alphabetical := by
  have hfiled : (ds.filter fun d => d.kind = kind) = ds.filter fun d => (key d).isSome := by
    refine List.filter_congr fun d _ => ?_
    by_cases hd : d.kind = kind <;> simp [hkey, hd]
  refine eq_of_filter_ties alphabetical_total
    (List.pairwise_mergeSort alphabetical_trans alphabetical_total _)
    (List.pairwise_mergeSort alphabetical_trans alphabetical_total _) fun a => ?_
  rw [sortedGroups, filter_ties_mergeSort alphabetical_trans alphabetical_total,
    filter_ties_mergeSort alphabetical_trans alphabetical_total, hfiled]
  -- declarations that tie have one short name, so they are filed under one key
  refine filter_flatten_entries h ds hentries (k := Text.lower a.name) fun d hd => ?_
  rw [ties_alphabetical, Named, Bool.and_eq_true, beq_iff_eq] at hd
  rw [hkey, hd.1]
  by_cases hd' : d.kind = kind <;> simp [hd']

theorem IsFilled.sortedGroups_entries {ix : Index} (h : ix.IsFilled) {kind : DeclarationKind}
    (hkind : kind = .cls ∨ kind = .interface) {entries : List (String × List Declaration)}
    (hentries : entries.Perm (ix.tables.nameEntries kind)) :
    sortedGroups (entries.map Prod.snd)
      = ((declarationsOf ix.files).filter fun d => d.kind = kind).mergeSort alphabetical := by
  rw [h] at hentries
  rcases hkind with rfl | rfl
  · exact sortedGroups_eq classesByName_filedUnder (fun _ => rfl) _ hentries
  · exact sortedGroups_eq interfacesByName_filedUnder (fun _ => rfl) _ hentries

/-- **The catalogue does not depend on the order of the entries.**  After any history, and for any
order in which the table gives its entries, they make the catalogue of classes, or of interfaces,
and that is the stable sort of the declarations of this kind in the order of the URIs.  In
particular, declarations that agree in both names stand in the order of their files and, within one
file, as they are declared. -/
theorem catalogue_any_order (changes : List Change) {kind : DeclarationKind}
    (hkind : kind = .cls ∨ kind = .interface) {entries : List (String × List Declaration)}
    (hentries : entries.Perm ((run changes).tables.nameEntries kind)) :
    sortedGroups (entries.map Prod.snd) = (run changes).catalogue kind ∧
      ∃ uris, Listed (replay changes) uris ∧
        StablySorted ((declarationsIn (replay changes) uris).filter fun d => d.kind = kind)
          ((run changes).catalogue kind) ∧
        ∀ name fqn, ((run changes).catalogue kind).filter (Named name fqn)
          = uris.flatMap fun uri => ((replay changes uri).getD []).filter fun d =>
              d.kind = kind && Named name fqn d := by
  have hrun := represents_run changes
  have hcatalogue : (run changes).catalogue kind
      = ((declarationsIn (replay changes) (run changes).files.keys).filter
          fun d => d.kind = kind).mergeSort alphabetical := by
    rw [catalogue_eq_sortedGroups, hrun.filled.sortedGroups_entries hkind (.refl _),
      hrun.declarationsOf_eq]
  have hsorted := hcatalogue ▸ stablySorted_mergeSort _
  refine ⟨?_, _, hrun.listed, hsorted, fun name fqn => ?_⟩
  · rw [hrun.filled.sortedGroups_entries hkind hentries, hcatalogue, hrun.declarationsOf_eq]
  · rw [hsorted.stable, List.filter_filter, declarationsIn, List.filter_flatMap]
    simp only [Bool.and_comm]

/-- A class that two files declare, and another spelling of its name: the entries are given in
reverse order. -/
theorem catalogue_any_order_reversed :
    let declared (name uri : String) : Declaration :=
      ⟨.cls, name, "App\\" ++ name, none, false, uri, ⟨0, 6⟩⟩
    let changes : List Change := [
      .update "file:///b.php" [declared "USER" "file:///b.php", declared "User" "file:///b.php"],
      .update "file:///a.php" [declared "Zone" "file:///a.php", declared "User" "file:///a.php"]]
    let entries := ((run changes).tables.nameEntries .cls).reverse
    entries.Perm ((run changes).tables.nameEntries .cls) ∧
      entries.map Prod.fst = ["zone", "user"] ∧
      (run changes).catalogue .cls
        = [declared "USER" "file:///b.php", declared "User" "file:///a.php",
            declared "User" "file:///b.php", declared "Zone" "file:///a.php"] := by
  intro declared changes entries
  have hentries := List.reverse_perm ((run changes).tables.nameEntries .cls)
  have hcatalogue := (catalogue_any_order changes (.inl rfl) hentries).1
  have hgroups : entries.map Prod.snd
      = [[declared "Zone" "file:///a.php"],
          [declared "User" "file:///a.php", declared "USER" "file:///b.php",
            declared "User" "file:///b.php"]] := by
    decide +kernel
  refine ⟨hentries, by decide +kernel, hcatalogue.symm.trans ?_⟩
  rw [hgroups]
  simp +decide [sortedGroups, List.mergeSort, List.MergeSort.Internal.splitInTwo, alphabetical,
    declared]

end Index

end MockLens
