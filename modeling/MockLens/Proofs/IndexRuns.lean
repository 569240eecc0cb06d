/-
**The index after any history of changes.**

An index keeps four tables beside its files, filled anew after every change.  Here the index is
compared with the plain account of its history: which declarations each file had last.  The tables
are no part of that account, so what a lookup answers can be said without them, as a choice from the
list of all declarations in the order of the URIs.

Main definitions:

* `Index.Change`, `Index.run` — the changes of an index, and the index after some of them;
* `Index.Change.replay`, `Index.replay` — the account: the declarations of each file;
* `Index.Listed` — the known URIs in ascending order;
* `Index.Reference.samePath` — equality of paths up to ASCII case and one leading backslash;
* `Index.Reference.classByName`, … — the lookups as choices from a list of declarations;
* `Index.Answers` — what any lookup answers.

Main results:

* `Index.entry_foldl_add` — an entry of a table holds the declarations filed under its key, in
  order;
* `Index.Represents.apply`, `Index.represents_run` — the representation of the account, which every
  change keeps;
* `Index.run_refines_replay` — **after any history, every lookup answers its choice from the
  account.**
-/
import MockLens.Index
import MockLens.Proofs.Text
import Mathlib.Data.List.Basic
import Mathlib.Logic.Function.Basic
import Std.Data.TreeMap.Lemmas

set_option autoImplicit false

namespace MockLens

namespace Index

/-! ### Histories -/

/-- A change of an index. -/
inductive Change where
  | update (uri : String) (ds : List Declaration)
  | extend (entries : List (String × List Declaration))
  | remove (uri : String)

/-- The index after a change. -/
def Change.apply (ix : Index) : Change → Index
  | .update uri ds => ix.update uri ds
  | .extend entries => ix.extend entries
  | .remove uri => ix.remove uri

/-- The index after a history of changes, empty in the beginning. -/
def run (changes : List Change) : Index := changes.foldl Change.apply empty

/-- An account of the files: the last declarations given for each file that is known. -/
abbrev Account := String → Option (List Declaration)

/-- The account after a file was given with its declarations. -/
def Account.put (known : Account) (entry : String × List Declaration) : Account :=
  Function.update known entry.1 (some entry.2)

/-- The account after a change. -/
def Change.replay (known : Account) : Change → Account
  | .update uri ds => known.put (uri, ds)
  | .extend entries => entries.foldl Account.put known
  | .remove uri => Function.update known uri none

/-- The account of a history. -/
def replay (changes : List Change) : Account := changes.foldl Change.replay fun _ => none

/-- The known URIs in ascending order. -/
structure Listed (known : Account) (uris : List String) : Prop where
  ascending : uris.Pairwise (· < ·)
  mem_iff : ∀ uri, uri ∈ uris ↔ (known uri).isSome

/-- The declarations of the listed files, one file after the other. -/
def declarationsIn (known : Account) (uris : List String) : List Declaration :=
  uris.flatMap fun uri => (known uri).getD []

theorem exists_of_mem_declarationsIn {known : Account} {uris : List String} {d : Declaration}
    (hd : d ∈ declarationsIn known uris) : ∃ uri ds, known uri = some ds ∧ d ∈ ds := by
  obtain ⟨uri, -, hd⟩ := List.mem_flatMap.1 hd
  cases hknown : known uri with
  | none => simp [hknown] at hd
  | some ds => exact ⟨uri, ds, hknown, by simpa [hknown] using hd⟩

/-- After a file was given, an account knows that file or knew the file before. -/
theorem Account.of_put {known : Account} {entry : String × List Declaration} {uri : String}
    {ds : List Declaration} (h : known.put entry uri = some ds) :
    uri = entry.1 ∧ ds = entry.2 ∨ known uri = some ds := by
  rw [Account.put, Function.update_apply] at h
  split at h
  · exact .inl ⟨‹_›, (Option.some.inj h).symm⟩
  · exact .inr h

/-! ### Lookups as choices from a list -/

namespace Reference

/-- A path less one leading backslash. -/
def unrooted (path : String) : String := (Text.dropPrefix? "\\" path).getD path

/-- Two paths are equal up to ASCII case and one leading backslash. -/
def samePath (a b : String) : Bool := Text.sameFold (unrooted a) (unrooted b)

/-- Paths are equal so exactly when they are filed under one key. -/
theorem samePath_eq (a b : String) : samePath a b = (pathKey a == pathKey b) := rfl

theorem samePath_iff {a b : String} : samePath a b = true ↔ pathKey a = pathKey b := by
  rw [samePath_eq, beq_iff_eq]

variable (ds : List Declaration)

/-- The class-likes with the given path. -/
def classLikesAt (path : String) : List Declaration :=
  ds.filter fun d => d.isClassLike && samePath d.fqn path

/-- A name fits a declaration: by path if it has a backslash, else by short name. -/
def fits (name : String) (d : Declaration) : Bool :=
  if Text.hasChar '\\' name then samePath d.fqn name else Text.sameFold d.name name

/-- The first class a name fits. -/
def classByName (name : String) : Option Declaration :=
  ds.find? fun d => d.kind == .cls && fits name d

/-- The interfaces a name fits. -/
def interfacesByName (name : String) : List Declaration :=
  ds.filter fun d => d.kind == .interface && fits name d

/-- The methods of an owner. -/
def methodsOf (owner : String) : List Declaration :=
  ds.filter fun d => d.kind == .method && d.owner.any fun o => samePath o owner

/-- The methods of an owner with a given name. -/
def methodsNamed (owner name : String) : List Declaration :=
  (methodsOf ds owner).filter fun m => Text.sameFold m.name name

end Reference

/-- Every lookup of the index answers its choice from the list.  A signature names a class-like
behind `#C`, a method of an owner behind `#M#C`, and otherwise nothing. -/
structure Agrees (ix : Index) (ds : List Declaration) : Prop where
  classByName : ∀ name, ix.classByName name = Reference.classByName ds name
  interfacesByName : ∀ name, ix.interfacesByName name = Reference.interfacesByName ds name
  classLikesAt : ∀ path, ix.classLikesAt path = Reference.classLikesAt ds path
  methodsOf : ∀ owner, ix.methodsOf owner = Reference.methodsOf ds owner
  findMethod : ∀ owner name,
    ix.findMethod owner name = (Reference.methodsNamed ds owner name).head?
  bySignature_class : ∀ path, ix.bySignature ("#C" ++ path) = Reference.classLikesAt ds path
  bySignature_method : ∀ owner method, '.' ∉ method.toList →
    ix.bySignature ("#M#C" ++ owner ++ "." ++ method) = Reference.methodsNamed ds owner method
  bySignature_other : ∀ s, (∀ path, s ≠ "#C" ++ path) →
    (∀ owner method, '.' ∉ method.toList → s ≠ "#M#C" ++ owner ++ "." ++ method) →
    ix.bySignature s = []

/-- Something a lookup of the index answers. -/
def Answers (ix : Index) (d : Declaration) : Prop :=
  (∃ name, ix.classByName name = some d) ∨ (∃ name, d ∈ ix.interfacesByName name) ∨
    (∃ path, d ∈ ix.classLikesAt path) ∨ (∃ owner, d ∈ ix.methodsOf owner) ∨
    (∃ owner name, ix.findMethod owner name = some d) ∨ (∃ s, d ∈ ix.bySignature s) ∨
    ∃ kind, d ∈ ix.catalogue kind

/-! ### Tables -/

theorem Table.entry_push (t : Table) (key k : String) (d : Declaration) :
    (t.push key d).entry k = t.entry k ++ if key = k then [d] else [] := by
  unfold Table.entry Table.push
  rw [Std.TreeMap.getElem?_alter]
  by_cases hk : key = k
  · simp [hk]
  · simp [hk, Std.LawfulEqCmp.compare_eq_iff_eq]

/-- The key under which a declaration is filed as a class. -/
def classKey (d : Declaration) : Option String :=
  if d.kind = .cls then some (Text.lower d.name) else none

/-- The key under which a declaration is filed as an interface. -/
def interfaceKey (d : Declaration) : Option String :=
  if d.kind = .interface then some (Text.lower d.name) else none

/-- The key under which a declaration is filed as a class-like. -/
def classLikeKey (d : Declaration) : Option String :=
  if d.isClassLike then some (pathKey d.fqn) else none

/-- The key under which a declaration is filed as a method. -/
def methodKey (d : Declaration) : Option String :=
  if d.kind = .method then d.owner.map pathKey else none

/-- A table begins empty and files each declaration under its key, if it has one. -/
structure FiledUnder (table : Tables → Table) (key : Declaration → Option String) : Prop where
  entry_empty : ∀ k, (table {}).entry k = []
  entry_add : ∀ (t : Tables) (d : Declaration) (k : String),
    (table (t.add d)).entry k = (table t).entry k ++ if key d = some k then [d] else []

theorem classesByName_filedUnder : FiledUnder Tables.classesByName classKey := by
  refine ⟨fun k => by simp [Table.entry], fun t d k => ?_⟩
  unfold Tables.add classKey
  cases hkind : d.kind with
  | cls => simp [Table.entry_push]
  | method => cases d.owner <;> simp
  | _ => simp

theorem interfacesByName_filedUnder : FiledUnder Tables.interfacesByName interfaceKey := by
  refine ⟨fun k => by simp [Table.entry], fun t d k => ?_⟩
  unfold Tables.add interfaceKey
  cases hkind : d.kind with
  | interface => simp [Table.entry_push]
  | method => cases d.owner <;> simp
  | _ => simp

theorem classLikesByPath_filedUnder : FiledUnder Tables.classLikesByPath classLikeKey := by
  refine ⟨fun k => by simp [Table.entry], fun t d k => ?_⟩
  unfold Tables.add classLikeKey Declaration.isClassLike
  cases hkind : d.kind with
  | method => cases d.owner <;> simp [DeclarationKind.isClassLike]
  | _ => simp [DeclarationKind.isClassLike, Table.entry_push]

theorem methodsByOwner_filedUnder : FiledUnder Tables.methodsByOwner methodKey := by
  refine ⟨fun k => by simp [Table.entry], fun t d k => ?_⟩
  unfold Tables.add methodKey
  cases hkind : d.kind with
  | method => cases d.owner <;> simp [Table.entry_push]
  | _ => simp

theorem entry_foldl_add {table : Tables → Table} {key : Declaration → Option String}
    (h : FiledUnder table key) (t : Tables) (ds : List Declaration) (k : String) :
    (table (ds.foldl Tables.add t)).entry k
      = (table t).entry k ++ ds.filter fun d => key d = some k := by
  induction ds generalizing t with
  | nil => simp
  | cons d ds ih =>
      rw [List.foldl_cons, ih, h.entry_add t d k, List.append_assoc]
      by_cases hd : key d = some k
      · simp [hd]
      · simp [hd]

/-- **An entry holds the declarations filed under its key, in order.** -/
theorem entry_ofDeclarations {table : Tables → Table} {key : Declaration → Option String}
    (h : FiledUnder table key) (ds : List Declaration) (k : String) :
    (table (Tables.ofDeclarations ds)).entry k = ds.filter fun d => key d = some k := by
  rw [Tables.ofDeclarations, entry_foldl_add h, h.entry_empty, List.nil_append]

/-! ### The lookups of a filled index -/

/-- The tables hold the declarations of the files and nothing else. -/
def IsFilled (ix : Index) : Prop := ix.tables = Tables.ofDeclarations (declarationsOf ix.files)

section Filled

variable {ix : Index} (h : ix.IsFilled)

include h

theorem IsFilled.classLikesAt_eq (path : String) :
    ix.classLikesAt path = Reference.classLikesAt (declarationsOf ix.files) path := by
  rw [classLikesAt, h, entry_ofDeclarations classLikesByPath_filedUnder, Reference.classLikesAt]
  refine List.filter_congr fun d _ => ?_
  by_cases hd : d.isClassLike = true
  · simp [classLikeKey, Reference.samePath_eq, hd, beq_eq_decide]
  · simp [classLikeKey, hd]

theorem IsFilled.classByName_eq (name : String) :
    ix.classByName name = Reference.classByName (declarationsOf ix.files) name := by
  rw [classByName, Reference.classByName]
  -- a name with a backslash is looked up among the paths, any other among the short names
  by_cases hslash : Text.hasChar '\\' name = true
  · rw [if_pos hslash, h.classLikesAt_eq, Reference.classLikesAt, List.find?_filter]
    congr 1
    funext d
    cases hkind : d.kind <;>
      simp [Reference.fits, hslash, hkind, Declaration.isClassLike, DeclarationKind.isClassLike,
        beq_eq_decide]
  · rw [if_neg hslash, h, entry_ofDeclarations classesByName_filedUnder, List.head?_filter]
    congr 1
    funext d
    by_cases hkind : d.kind = .cls
    · simp [classKey, Reference.fits, Text.sameFold, hslash, hkind, beq_eq_decide]
    · simp [classKey, hkind]

theorem IsFilled.interfacesByName_eq (name : String) :
    ix.interfacesByName name = Reference.interfacesByName (declarationsOf ix.files) name := by
  rw [interfacesByName, Reference.interfacesByName]
  by_cases hslash : Text.hasChar '\\' name = true
  · rw [if_pos hslash, h.classLikesAt_eq, Reference.classLikesAt, List.filter_filter]
    refine List.filter_congr fun d _ => ?_
    cases hkind : d.kind <;>
      simp [Reference.fits, hslash, hkind, Declaration.isClassLike, DeclarationKind.isClassLike]
  · rw [if_neg hslash, h, entry_ofDeclarations interfacesByName_filedUnder]
    refine List.filter_congr fun d _ => ?_
    by_cases hkind : d.kind = .interface
    · simp [interfaceKey, Reference.fits, Text.sameFold, hslash, hkind, beq_eq_decide]
    · simp [interfaceKey, hkind]

theorem IsFilled.methodsOf_eq (owner : String) :
    ix.methodsOf owner = Reference.methodsOf (declarationsOf ix.files) owner := by
  rw [methodsOf, h, entry_ofDeclarations methodsByOwner_filedUnder, Reference.methodsOf]
  refine List.filter_congr fun d _ => ?_
  by_cases hkind : d.kind = .method
  · cases howner : d.owner <;>
      simp [methodKey, Reference.samePath_eq, hkind, howner, beq_eq_decide]
  · simp [methodKey, hkind]

theorem IsFilled.findMethod_eq (owner name : String) :
    ix.findMethod owner name
      = (Reference.methodsNamed (declarationsOf ix.files) owner name).head? := by
  rw [findMethod, h.methodsOf_eq, Reference.methodsNamed, List.head?_filter]

theorem IsFilled.bySignature_class_eq (path : String) :
    ix.bySignature ("#C" ++ path) = Reference.classLikesAt (declarationsOf ix.files) path := by
  have hcall : Text.dropPrefix? "#M#C" ("#C" ++ path) = none :=
    Text.dropPrefix?_eq_none_iff.2 fun rest => by simp [← String.toList_inj]
  have hpath : Text.dropPrefix? "#C" ("#C" ++ path) = some path :=
    Text.dropPrefix?_eq_some_iff.2 rfl
  rw [bySignature, hcall, hpath]
  exact h.classLikesAt_eq path

theorem IsFilled.bySignature_method_eq (owner : String) {method : String}
    (hdot : '.' ∉ method.toList) :
    ix.bySignature ("#M#C" ++ owner ++ "." ++ method)
      = Reference.methodsNamed (declarationsOf ix.files) owner method := by
  have hcall : Text.dropPrefix? "#M#C" ("#M#C" ++ owner ++ "." ++ method)
      = some (owner ++ String.singleton '.' ++ method) :=
    Text.dropPrefix?_eq_some_iff.2 (by simp [String.append_assoc])
  rw [bySignature, hcall]
  simp only [Text.cutLast_append hdot, h.methodsOf_eq, Reference.methodsNamed]

omit h in
theorem bySignature_eq_nil {s : String} (hclass : ∀ path, s ≠ "#C" ++ path)
    (hmethod : ∀ owner method, '.' ∉ method.toList → s ≠ "#M#C" ++ owner ++ "." ++ method) :
    ix.bySignature s = [] := by
  cases hcall : Text.dropPrefix? "#M#C" s with
  | none => rw [bySignature, hcall, Text.dropPrefix?_eq_none_iff.2 hclass]
  | some call =>
      cases hcut : Text.cutLast '.' call with
      | none => simp [bySignature, hcall, hcut]
      | some parts =>
          obtain ⟨owner, method⟩ := parts
          obtain ⟨rfl, hdot⟩ := Text.eq_of_cutLast hcut
          refine absurd (Text.dropPrefix?_eq_some_iff.1 hcall) ?_
          rw [← String.append_assoc, ← String.append_assoc]
          exact hmethod owner method hdot

/-- **A filled index answers from the declarations of its files.** -/
theorem IsFilled.agrees : ix.Agrees (declarationsOf ix.files) where
  classByName := h.classByName_eq
  interfacesByName := h.interfacesByName_eq
  classLikesAt := h.classLikesAt_eq
  methodsOf := h.methodsOf_eq
  findMethod := h.findMethod_eq
  bySignature_class := h.bySignature_class_eq
  bySignature_method := fun owner _ => h.bySignature_method_eq owner
  bySignature_other := fun _ => bySignature_eq_nil

end Filled

/-! ### Histories keep the index filled -/

/-- The index has the files of an account, and its tables hold them. -/
structure Represents (ix : Index) (known : Account) : Prop where
  filled : ix.IsFilled
  files : ∀ uri, ix.files[uri]? = known uri

theorem represents_empty : empty.Represents fun _ => none :=
  ⟨rfl, fun uri => by simp [empty]⟩

theorem files_foldl_insert (files : Std.TreeMap String (List Declaration)) (known : Account)
    (h : ∀ uri, files[uri]? = known uri) (entries : List (String × List Declaration))
    (uri : String) :
    (entries.foldl (fun files e => files.insert e.1 e.2) files)[uri]?
      = entries.foldl Account.put known uri := by
  induction entries generalizing files known with
  | nil => exact h uri
  | cons e es ih =>
      refine ih _ _ fun u => ?_
      rw [Std.TreeMap.getElem?_insert, Account.put, Function.update_apply, h u]
      by_cases hu : u = e.1
      · simp [hu]
      · simp [hu, Ne.symm hu]

/-- **Every change of the index is the same change of the account.** -/
theorem Represents.apply {ix : Index} {known : Account}
    (h : ix.Represents known) (change : Change) :
    (change.apply ix).Represents (change.replay known) := by
  cases change with
  | update uri ds =>
      refine ⟨rfl, fun u => ?_⟩
      exact files_foldl_insert ix.files known h.files [(uri, ds)] u
  | extend entries => exact ⟨rfl, fun u => files_foldl_insert ix.files known h.files entries u⟩
  | remove uri =>
      -- an unknown file is not removed, and the account had nothing to forget
      by_cases hknown : ix.files.contains uri = true
      · rw [Change.apply, remove, if_pos hknown]
        refine ⟨rfl, fun u => ?_⟩
        rw [Change.replay, Function.update_apply, ← h.files u]
        change (ix.files.erase uri)[u]? = _
        rw [Std.TreeMap.getElem?_erase]
        by_cases hu : u = uri
        · simp [hu]
        · simp [hu, Ne.symm hu]
      · rw [Change.apply, remove, if_neg hknown]
        refine ⟨h.filled, fun u => ?_⟩
        rw [Change.replay, Function.update_apply, ← h.files u]
        by_cases hu : u = uri
        · simpa [hu] using hknown
        · simp [hu]

theorem represents_run (changes : List Change) : (run changes).Represents (replay changes) := by
  have hrun : ∀ (ix : Index) (known : Account), ix.Represents known →
      (changes.foldl Change.apply ix).Represents (changes.foldl Change.replay known) := by
    induction changes with
    | nil => exact fun _ _ h => h
    | cons c cs ih => exact fun _ _ h => ih _ _ (h.apply c)
  exact hrun empty _ represents_empty

namespace Represents

variable {ix : Index} {known : Account} (h : ix.Represents known)

include h

theorem listed : Listed known ix.files.keys where
  ascending := ix.files.ordered_keys.imp fun hab => compareOfLessAndEq_eq_lt.1 hab
  mem_iff uri := by
    rw [Std.TreeMap.mem_keys, ← h.files uri, Std.TreeMap.mem_iff_isSome_getElem?]

theorem declarationsOf_eq : declarationsOf ix.files = declarationsIn known ix.files.keys := by
  rw [declarationsOf, declarationsIn, ← Std.TreeMap.map_fst_toList_eq_keys, List.flatMap_map]
  refine List.flatMap_congr fun e he => ?_
  have hfile : ix.files[e.1]? = some e.2 := Std.TreeMap.mem_toList_iff_getElem?_eq_some.1 he
  rw [← h.files e.1, hfile]
  rfl

theorem contains_eq (uri : String) : ix.contains uri = (known uri).isSome := by
  rw [contains, ← h.files uri, Std.TreeMap.isSome_getElem?_eq_contains]

theorem mem_declarationsOf {d : Declaration} (hd : d ∈ declarationsOf ix.files) :
    ∃ uri ds, known uri = some ds ∧ d ∈ ds := by
  rw [h.declarationsOf_eq] at hd
  exact exists_of_mem_declarationsIn hd

theorem mem_declarationsOf_of_known {uri : String} {ds : List Declaration}
    (hknown : known uri = some ds) {d : Declaration} (hd : d ∈ ds) :
    d ∈ declarationsOf ix.files := by
  have hfile : ix.files[uri]? = some ds := (h.files uri).trans hknown
  exact List.mem_flatMap.2 ⟨(uri, ds), Std.TreeMap.mem_toList_iff_getElem?_eq_some.2 hfile, hd⟩

end Represents

/-! ### Answers -/

/-- What is catalogued from a table is among the declarations and filed in that table. -/
theorem filed_of_mem_catalogue {table : Tables → Table} {key : Declaration → Option String}
    (h : FiledUnder table key) {ds : List Declaration} {d : Declaration}
    (hd : d ∈ sortedGroups ((table (Tables.ofDeclarations ds)).toList.map Prod.snd)) :
    d ∈ ds ∧ (key d).isSome := by
  rw [sortedGroups, List.mem_mergeSort, List.mem_flatten] at hd
  obtain ⟨group, hgroup, hd⟩ := hd
  obtain ⟨⟨k, entry⟩, hk, rfl⟩ := List.mem_map.1 hgroup
  have hentry : (table (Tables.ofDeclarations ds)).entry k = entry := by
    rw [Table.entry, Std.TreeMap.mem_toList_iff_getElem?_eq_some.1 hk]
    rfl
  rw [← hentry, entry_ofDeclarations h, List.mem_filter, decide_eq_true_eq] at hd
  exact ⟨hd.1, by rw [hd.2]; rfl⟩

/-- The catalogue of a kind lists declarations of that kind. -/
theorem IsFilled.mem_of_mem_catalogue {ix : Index} (h : ix.IsFilled) {kind : DeclarationKind}
    {d : Declaration} (hd : d ∈ ix.catalogue kind) :
    d ∈ declarationsOf ix.files ∧ d.kind = kind := by
  cases kind with
  | cls =>
      rw [catalogue, h] at hd
      obtain ⟨hd, hkey⟩ := filed_of_mem_catalogue classesByName_filedUnder hd
      refine ⟨hd, ?_⟩
      by_contra hkind
      simp [classKey, hkind] at hkey
  | interface =>
      rw [catalogue, h] at hd
      obtain ⟨hd, hkey⟩ := filed_of_mem_catalogue interfacesByName_filedUnder hd
      refine ⟨hd, ?_⟩
      by_contra hkind
      simp [interfaceKey, hkind] at hkey
  | trait => simp [catalogue] at hd
  | enum => simp [catalogue] at hd
  | method => simp [catalogue] at hd

/-- What is filed in a table is catalogued from it. -/
theorem mem_catalogue_of_filed {table : Tables → Table} {key : Declaration → Option String}
    (h : FiledUnder table key) {ds : List Declaration} {d : Declaration} (hd : d ∈ ds) {k : String}
    (hkey : key d = some k) :
    d ∈ sortedGroups ((table (Tables.ofDeclarations ds)).toList.map Prod.snd) := by
  have hentry : d ∈ (table (Tables.ofDeclarations ds)).entry k := by
    rw [entry_ofDeclarations h, List.mem_filter, decide_eq_true_eq]
    exact ⟨hd, hkey⟩
  cases hgroup : (table (Tables.ofDeclarations ds))[k]? with
  | none => simp [Table.entry, hgroup] at hentry
  | some group =>
      rw [Table.entry, hgroup] at hentry
      rw [sortedGroups, List.mem_mergeSort, List.mem_flatten]
      exact ⟨group, List.mem_map.2 ⟨(k, group),
        Std.TreeMap.mem_toList_iff_getElem?_eq_some.2 hgroup, rfl⟩, hentry⟩

/-- Every class and interface of the files is catalogued under its kind. -/
theorem IsFilled.mem_catalogue {ix : Index} (h : ix.IsFilled) {d : Declaration}
    (hd : d ∈ declarationsOf ix.files) (hkind : d.kind = .cls ∨ d.kind = .interface) :
    d ∈ ix.catalogue d.kind := by
  rcases hkind with hkind | hkind
  · rw [hkind, catalogue, h]
    exact mem_catalogue_of_filed classesByName_filedUnder hd (by rw [classKey, if_pos hkind])
  · rw [hkind, catalogue, h]
    exact mem_catalogue_of_filed interfacesByName_filedUnder hd
      (by rw [interfaceKey, if_pos hkind])

/-- **No lookup answers anything but declarations of the files.** -/
theorem IsFilled.mem_of_answers {ix : Index} (h : ix.IsFilled) {d : Declaration}
    (hd : ix.Answers d) : d ∈ declarationsOf ix.files := by
  rcases hd with ⟨name, hd⟩ | ⟨name, hd⟩ | ⟨path, hd⟩ | ⟨owner, hd⟩ | ⟨owner, name, hd⟩ | ⟨s, hd⟩ |
    ⟨kind, hd⟩
  · rw [h.classByName_eq] at hd
    exact List.mem_of_find?_eq_some hd
  · rw [h.interfacesByName_eq] at hd
    exact List.mem_of_mem_filter hd
  · rw [h.classLikesAt_eq] at hd
    exact List.mem_of_mem_filter hd
  · rw [h.methodsOf_eq] at hd
    exact List.mem_of_mem_filter hd
  · rw [h.findMethod_eq] at hd
    exact List.mem_of_mem_filter (List.mem_of_mem_filter (List.mem_of_mem_head? hd))
  · unfold bySignature at hd
    split at hd
    · split at hd
      · rw [h.methodsOf_eq] at hd
        exact List.mem_of_mem_filter (List.mem_of_mem_filter hd)
      · simp at hd
    · split at hd
      · rw [h.classLikesAt_eq] at hd
        exact List.mem_of_mem_filter hd
      · simp at hd
  · exact (h.mem_of_mem_catalogue hd).1

/-- **After any history, every lookup answers its choice from the account.**  The account decides
which files are known, and nothing that was replaced or removed is ever answered. -/
theorem run_refines_replay (changes : List Change) :
    ∃ uris, Listed (replay changes) uris ∧
      (run changes).Agrees (declarationsIn (replay changes) uris) ∧
      (∀ uri, (run changes).contains uri = (replay changes uri).isSome) ∧
      (run changes).fileCount = uris.length ∧
      ∀ d, (run changes).Answers d → ∃ uri ds, replay changes uri = some ds ∧ d ∈ ds := by
  have hrun := represents_run changes
  refine ⟨(run changes).files.keys, hrun.listed, ?_, hrun.contains_eq, ?_, fun d hd => ?_⟩
  · rw [← hrun.declarationsOf_eq]
    exact hrun.filled.agrees
  · rw [fileCount, Std.TreeMap.length_keys]
  · exact hrun.mem_declarationsOf (hrun.filled.mem_of_answers hd)

/-- Of two files one is replaced: names in another case, and with a backslash in front, are looked
up among what is left. -/
example :
    let cls (uri name : String) : Declaration :=
      ⟨.cls, name, "App\\" ++ name, none, false, uri, ⟨0, 0⟩⟩
    let save : Declaration :=
      ⟨.method, "save", "App\\User::save", some "App\\User", false, "b.php", ⟨0, 0⟩⟩
    let ix := run [.extend [("b.php", [cls "b.php" "User", save]), ("a.php", [cls "a.php" "User"])],
      .update "a.php" [cls "a.php" "Shop"]]
    ix.classByName "uSER" = some (cls "b.php" "User") ∧
      ix.classByName "\\app\\SHOP" = some (cls "a.php" "Shop") ∧
      ix.classLikesAt "\\\\App\\User" = [] ∧
      ix.findMethod "\\APP\\user" "SAVE" = some save ∧
      ix.bySignature "#M#CApp\\User.Save" = [save] := by
  decide +kernel

end Index

end MockLens
