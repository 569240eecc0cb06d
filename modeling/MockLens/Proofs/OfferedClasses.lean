/-
**Offered classes: which names are offered for what is typed.**

The offers are made from two catalogues, one of the classes of the index and one of its interfaces
(`MockLens/Completion.lean`).  Those that do not go with what is typed are left out, and of those
with one name only the first is kept.  So an interface is kept if no class has its name, and within
each catalogue the order stays the alphabetical one.  All of this depends on the declarations that
are indexed and not on the files they are in, and it is said here in terms of these.

Main definitions:

* `Index.IsIndexed` — a declaration that some known file has;
* `Index.Matches` — an indexed declaration of a kind that goes with what is typed;
* `CompletionItem.Before` — the order of the offers;
* `Index.ClassesOffered` — which names are offered, and how.

Main results:

* `distinctBy_append` — of two lists, the second adds the keys that are new;
* `Index.pairwise_catalogue` — a catalogue is in alphabetical order;
* `Index.classes_offered` — **the names that are offered**, after any history of the index.
-/
import MockLens.Proofs.OfferedNames
import Mathlib.Data.Prod.Lex
import Mathlib.Data.String.Basic

set_option autoImplicit false

namespace MockLens

/-! ### Distinct elements -/

section Distinct

variable {α : Type} (key : α → String)

theorem mem_map_filter_iff {k k' : String} {xs : List α} :
    k ∈ (xs.filter fun y => key y ≠ k').map key ↔ k ∈ xs.map key ∧ k ≠ k' := by
  simp only [List.mem_map, List.mem_filter, decide_eq_true_eq]
  constructor
  · rintro ⟨y, ⟨hy, hne⟩, rfl⟩
    exact ⟨⟨y, hy, rfl⟩, hne⟩
  · rintro ⟨⟨y, hy, rfl⟩, hne⟩
    exact ⟨y, ⟨hy, hne⟩, rfl⟩

/-- No key is lost. -/
theorem mem_map_distinctBy_iff {k : String} :
    ∀ xs : List α, k ∈ (distinctBy key xs).map key ↔ k ∈ xs.map key
  | [] => Iff.rfl
  | x :: xs => by
      rw [distinctBy_cons, List.map_cons, List.map_cons, List.mem_cons, List.mem_cons,
        mem_map_distinctBy_iff (xs.filter fun y => key y ≠ key x), mem_map_filter_iff]
      by_cases hk : k = key x <;> simp [hk]
termination_by xs => xs.length
decreasing_by exact Nat.lt_succ_of_le (List.length_filter_le _ _)

/-- No key is kept twice. -/
theorem nodup_map_distinctBy : ∀ xs : List α, ((distinctBy key xs).map key).Nodup
  | [] => .nil
  | x :: xs => by
      rw [distinctBy_cons, List.map_cons, List.nodup_cons, mem_map_distinctBy_iff]
      exact ⟨by simp, nodup_map_distinctBy _⟩
termination_by xs => xs.length
decreasing_by exact Nat.lt_succ_of_le (List.length_filter_le _ _)

/-- **Of two lists, the second adds the elements whose keys are new.** -/
theorem distinctBy_append (ys : List α) :
    ∀ xs : List α, distinctBy key (xs ++ ys)
      = distinctBy key xs ++ distinctBy key (ys.filter fun y => key y ∉ xs.map key)
  | [] => by simp [distinctBy]
  | x :: xs => by
      have hrest := distinctBy_append (ys.filter fun y => key y ≠ key x)
        (xs.filter fun y => key y ≠ key x)
      rw [List.cons_append, distinctBy_cons, List.filter_append, hrest, List.filter_filter,
        distinctBy_cons, List.cons_append]
      congr 3
      refine List.filter_congr fun y _ => ?_
      by_cases hy : key y = key x
      · simp [hy]
      · simp only [mem_map_filter_iff, List.map_cons, List.mem_cons, hy, ne_eq, not_false_eq_true,
          and_true, false_or, decide_true, Bool.and_true]
termination_by xs => xs.length
decreasing_by exact Nat.lt_succ_of_le (List.length_filter_le _ _)

end Distinct

/-! ### Alphabetical order -/

namespace Index

theorem alphabetical_iff {a b : Declaration} :
    alphabetical a b = true ↔ toLex (a.name, a.fqn) ≤ toLex (b.name, b.fqn) := by
  rw [Prod.Lex.toLex_le_toLex, le_iff_lt_or_eq]
  simp [alphabetical]

theorem alphabetical_trans (a b c : Declaration) (hab : alphabetical a b = true)
    (hbc : alphabetical b c = true) : alphabetical a c = true :=
  alphabetical_iff.2 ((alphabetical_iff.1 hab).trans (alphabetical_iff.1 hbc))

theorem alphabetical_total (a b : Declaration) :
    (alphabetical a b || alphabetical b a) = true := by
  rw [Bool.or_eq_true, alphabetical_iff, alphabetical_iff]
  exact le_total _ _

/-- **A catalogue is in alphabetical order.** -/
theorem pairwise_catalogue (ix : Index) (kind : DeclarationKind) :
    (ix.catalogue kind).Pairwise fun a b => alphabetical a b = true := by
  cases kind with
  | cls | interface => exact List.pairwise_mergeSort alphabetical_trans alphabetical_total _
  | trait | enum | method => exact .nil

/-! ### Declarations that go with what is typed -/

/-- A known file has the declaration. -/
def IsIndexed (changes : List Change) (d : Declaration) : Prop :=
  ∃ uri ds, replay changes uri = some ds ∧ d ∈ ds

/-- What is typed, without the backslashes in front of it, occurs up to ASCII case in the fully
qualified name if it has a backslash, and in the short name otherwise. -/
def Fits (typed : String) (d : Declaration) : Prop :=
  (Text.lower (Text.trimStart (· == '\\') typed)).toList <:+:
    (Text.lower (if '\\' ∈ typed.toList then d.fqn else d.name)).toList

/-- An indexed declaration of a kind that goes with what is typed. -/
structure Matches (changes : List Change) (typed : String) (kind : DeclarationKind)
    (d : Declaration) : Prop where
  indexed : IsIndexed changes d
  kind : d.kind = kind
  fits : Fits typed d

theorem asksFor_iff {typed : String} {d : Declaration} :
    asksFor typed d = true ↔ Fits typed d := by
  have hchar : Text.hasChar '\\' typed = true ↔ '\\' ∈ typed.toList := by simp [Text.hasChar]
  rw [asksFor, Fits, ← Bool.not_eq_false, ← not_iff_not, not_not, Text.hasSub_eq_false_iff]
  simp only [hchar]

section Offers

variable (changes : List Change) (typed : String) (range : Range)

/-- The declarations of a kind that go with what is typed, in alphabetical order. -/
def matching (kind : DeclarationKind) : List Declaration :=
  ((run changes).catalogue kind).filter (asksFor typed)

theorem mem_matching_iff {kind : DeclarationKind} (hkind : kind = .cls ∨ kind = .interface)
    {d : Declaration} : d ∈ matching changes typed kind ↔ Matches changes typed kind d := by
  have hrun := represents_run changes
  rw [matching, List.mem_filter, asksFor_iff]
  constructor
  · rintro ⟨hd, hfits⟩
    obtain ⟨hfile, rfl⟩ := hrun.filled.mem_of_mem_catalogue hd
    exact ⟨hrun.mem_declarationsOf hfile, rfl, hfits⟩
  · rintro ⟨⟨uri, ds, hknown, hd⟩, rfl, hfits⟩
    exact ⟨hrun.filled.mem_catalogue (hrun.mem_declarationsOf_of_known hknown hd) hkind, hfits⟩

theorem mem_classes_iff {d : Declaration} :
    d ∈ matching changes typed .cls ↔ Matches changes typed .cls d :=
  mem_matching_iff changes typed (.inl rfl)

theorem mem_interfaces_iff {d : Declaration} :
    d ∈ matching changes typed .interface ↔ Matches changes typed .interface d :=
  mem_matching_iff changes typed (.inr rfl)

/-- The classes that are offered. -/
def offeredClasses : List Declaration := distinctBy Declaration.fqn (matching changes typed .cls)

/-- The interfaces that are offered: those whose names no class has. -/
def offeredInterfaces : List Declaration :=
  distinctBy Declaration.fqn ((matching changes typed .interface).filter fun d =>
    d.fqn ∉ (matching changes typed .cls).map Declaration.fqn)

/-- **Classes are offered before interfaces.** -/
theorem classNameItems_eq :
    (run changes).classNameItems typed range
      = (offeredClasses changes typed).map (classNameItem typed range)
        ++ (offeredInterfaces changes typed).map (classNameItem typed range) := by
  rw [classNameItems, List.filter_append, distinctBy_append, List.map_append]
  rfl

variable {changes typed range}

theorem matches_of_mem_offeredClasses {d : Declaration} (h : d ∈ offeredClasses changes typed) :
    Matches changes typed .cls d :=
  (mem_classes_iff changes typed).1 ((sublist_distinctBy _ _).subset h)

theorem matches_of_mem_offeredInterfaces {d : Declaration}
    (h : d ∈ offeredInterfaces changes typed) :
    Matches changes typed .interface d ∧
      ∀ c, Matches changes typed .cls c → c.fqn ≠ d.fqn := by
  obtain ⟨hd, hnew⟩ := List.mem_filter.1 ((sublist_distinctBy _ _).subset h)
  refine ⟨(mem_interfaces_iff changes typed).1 hd, fun c hc hsame => ?_⟩
  rw [decide_eq_true_eq] at hnew
  exact hnew (List.mem_map.2 ⟨c, (mem_classes_iff changes typed).2 hc, hsame⟩)

end Offers

end Index

/-- The order of the offers: by short name, then by fully qualified name. -/
def CompletionItem.Before (a b : CompletionItem) : Prop :=
  a.label < b.label ∨ a.label = b.label ∧ a.detail < b.detail

namespace Index

/-- Declarations of a catalogue under different names are offered in order. -/
theorem pairwise_before {ix : Index} {kind : DeclarationKind} {ds : List Declaration}
    (hsub : ds.Sublist (ix.catalogue kind)) (hnodup : (ds.map Declaration.fqn).Nodup)
    (typed : String) (range : Range) :
    (ds.map (classNameItem typed range)).Pairwise CompletionItem.Before := by
  have hdistinct : ds.Pairwise fun a b => a.fqn ≠ b.fqn := List.pairwise_map.1 hnodup
  have hsorted := (pairwise_catalogue ix kind).sublist hsub
  refine List.pairwise_map.2 ((hsorted.and hdistinct).imp ?_)
  rintro a b ⟨hle, hne⟩
  rw [alphabetical_iff, Prod.Lex.toLex_le_toLex] at hle
  exact hle.imp_right fun h => ⟨h.1, lt_of_le_of_ne h.2 hne⟩

/-- Which names are offered for what is typed, and how. -/
structure ClassesOffered (changes : List Change) (typed : String) (range : Range)
    (items : List CompletionItem) : Prop where
  /-- The names are those of the indexed classes and interfaces that go with what is typed. -/
  names : ∀ name, name ∈ items.map CompletionItem.detail ↔
    ∃ d, (Matches changes typed .cls d ∨ Matches changes typed .interface d) ∧ d.fqn = name
  /-- No name is offered twice. -/
  once : (items.map CompletionItem.detail).Nodup
  /-- Each offer is made for one of these declarations, so never for another kind of
  declaration. -/
  offers : ∀ item ∈ items,
    ∃ d, (Matches changes typed .cls d ∨ Matches changes typed .interface d) ∧
      item = classNameItem typed range d
  /-- A name is offered as a class if one of these classes has it. -/
  asClass : ∀ item ∈ items,
    (item.kind = .cls ↔ ∃ c, Matches changes typed .cls c ∧ c.fqn = item.detail)
  /-- It is offered as an interface otherwise. -/
  asInterface : ∀ item ∈ items,
    (item.kind = .interface ↔ ¬∃ c, Matches changes typed .cls c ∧ c.fqn = item.detail)
  /-- The classes come before the interfaces, and both are in order. -/
  order : ∃ classes interfaces, items = classes ++ interfaces ∧
    (∀ item ∈ classes, item.kind = .cls) ∧ (∀ item ∈ interfaces, item.kind = .interface) ∧
    classes.Pairwise CompletionItem.Before ∧ interfaces.Pairwise CompletionItem.Before
  /-- What is inserted is the name, behind a backslash if what is typed begins with one. -/
  inserted : ∀ item ∈ items, item.textEdit
    = some ⟨range, if Text.startsWith "\\" typed then "\\" ++ item.detail else item.detail⟩

theorem kind_classNameItem_cls {typed : String} {range : Range} {d : Declaration}
    (h : d.kind = .cls) : (classNameItem typed range d).kind = .cls := by
  rw [classNameItem, h]
  rfl

theorem kind_classNameItem_interface {typed : String} {range : Range} {d : Declaration}
    (h : d.kind = .interface) : (classNameItem typed range d).kind = .interface := by
  rw [classNameItem, h]
  rfl

/-- An offer is made for a class, or for an interface if no class has its name. -/
theorem exists_matches {changes : List Change} {typed : String} {range : Range}
    {item : CompletionItem} (h : item ∈ (run changes).classNameItems typed range) :
    (∃ d, Matches changes typed .cls d ∧ item = classNameItem typed range d) ∨
      ∃ d, Matches changes typed .interface d ∧ item = classNameItem typed range d ∧
        ∀ c, Matches changes typed .cls c → c.fqn ≠ d.fqn := by
  rw [classNameItems_eq, List.mem_append, List.mem_map, List.mem_map] at h
  rcases h with ⟨d, hd, rfl⟩ | ⟨d, hd, rfl⟩
  · exact .inl ⟨d, matches_of_mem_offeredClasses hd, rfl⟩
  · obtain ⟨hmatches, hnew⟩ := matches_of_mem_offeredInterfaces hd
    exact .inr ⟨d, hmatches, rfl, hnew⟩

/-- The names offered are those that go with what is typed, each once. -/
theorem map_detail_classNameItems (changes : List Change) (typed : String) (range : Range) :
    ((run changes).classNameItems typed range).map CompletionItem.detail
      = (distinctBy Declaration.fqn (matching changes typed .cls
          ++ matching changes typed .interface)).map Declaration.fqn := by
  rw [classNameItems, List.map_map, List.filter_append]
  rfl

/-- **The names that are offered**, after any history of the index and for anything typed. -/
theorem classes_offered (changes : List Change) (typed : String) (range : Range) :
    ClassesOffered changes typed range ((run changes).classNameItems typed range) where
  names name := by
    rw [map_detail_classNameItems, mem_map_distinctBy_iff, List.mem_map]
    simp only [List.mem_append, mem_classes_iff, mem_interfaces_iff]
  once := by
    rw [map_detail_classNameItems]
    exact nodup_map_distinctBy _ _
  offers item hitem := by
    rcases exists_matches hitem with ⟨d, hd, rfl⟩ | ⟨d, hd, rfl, -⟩
    · exact ⟨d, .inl hd, rfl⟩
    · exact ⟨d, .inr hd, rfl⟩
  asClass item hitem := by
    rcases exists_matches hitem with ⟨d, hd, rfl⟩ | ⟨d, hd, rfl, hnew⟩
    · exact iff_of_true (kind_classNameItem_cls hd.kind) ⟨d, hd, rfl⟩
    · rw [kind_classNameItem_interface hd.kind]
      exact iff_of_false (by decide) fun ⟨c, hc, hsame⟩ => hnew c hc hsame
  asInterface item hitem := by
    rcases exists_matches hitem with ⟨d, hd, rfl⟩ | ⟨d, hd, rfl, hnew⟩
    · rw [kind_classNameItem_cls hd.kind]
      exact iff_of_false (by decide) fun hnone => hnone ⟨d, hd, rfl⟩
    · exact iff_of_true (kind_classNameItem_interface hd.kind)
        fun ⟨c, hc, hsame⟩ => hnew c hc hsame
  order := by
    refine ⟨_, _, classNameItems_eq changes typed range, ?_, ?_, ?_, ?_⟩
    · intro item hitem
      obtain ⟨d, hd, rfl⟩ := List.mem_map.1 hitem
      exact kind_classNameItem_cls (matches_of_mem_offeredClasses hd).kind
    · intro item hitem
      obtain ⟨d, hd, rfl⟩ := List.mem_map.1 hitem
      exact kind_classNameItem_interface (matches_of_mem_offeredInterfaces hd).1.kind
    · exact pairwise_before ((sublist_distinctBy _ _).trans List.filter_sublist)
        (nodup_map_distinctBy _ _) typed range
    · exact pairwise_before (((sublist_distinctBy _ _).trans List.filter_sublist).trans
        List.filter_sublist) (nodup_map_distinctBy _ _) typed range
  inserted item hitem := by
    rcases exists_matches hitem with ⟨d, -, rfl⟩ | ⟨d, -, rfl, -⟩
    · rfl
    · rfl

/-- A class and an interface of one name, and a trait: the name is offered once, as a class. -/
example :
    let declared (kind : DeclarationKind) (short uri : String) : Declaration :=
      ⟨kind, short, "App\\" ++ short, none, false, uri, ⟨0, 0⟩⟩
    let ix := run [
      .update "file:///a.php" [declared .interface "User" "file:///a.php"],
      .update "file:///b.php" [declared .cls "User" "file:///b.php",
        declared .trait "UserTrait" "file:///b.php"]]
    (ix.classNameItems "us" ⟨⟨0, 0⟩, ⟨0, 2⟩⟩).map (fun item => (item.kind, item.detail))
      = [(.cls, "App\\User")] := by
  decide +kernel

end Index

end MockLens
