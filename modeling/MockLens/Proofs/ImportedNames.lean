/-
**Imported names: what a file imports, and what its names stand for then.**

Whatever form an import has (`MockLens/Proofs/ImportClauses.lean`), each class-like it takes in
comes down to an alias and a full path, and these pairs make up the table of the file.  If no two
aliases are equal up to ASCII case, a name whose first segment is spelled like an alias stands for
what is behind the alias, in whatever order the table is searched, and any other name stands for one
in the namespace.

Main definitions:

* `Php.ImportClause.items` — the class-likes a clause imports, by their full names;
* `Php.ImportClause.expanded` — one clause for each item of a clause;
* `Php.ImportClause.withoutOthers` — a clause without what it imports besides class-likes;
* `Php.ImportsAre` — the imports among the statements of a program;
* `Divided` — a name as its first segment and the remainder.

Main results:

* `Php.ImportsAre.importsWithin` — the imports of a program are those of its clauses;
* `imports_compose` — **extracting imports and qualifying names compose.**
-/
import MockLens.Proofs.BlockImports
import MockLens.Proofs.ImportClauses
import MockLens.Proofs.OfferedNames
import Mathlib.Data.List.Pairwise

set_option autoImplicit false

namespace MockLens

/-- What is not empty and has no backslashes begins with another character. -/
theorem exists_toList_eq_cons {s : String} (hne : s ≠ "") (hbare : '\\' ∉ s.toList) :
    ∃ c cs, c ≠ '\\' ∧ s.toList = c :: cs := by
  obtain ⟨c, cs, hs⟩ := List.exists_cons_of_ne_nil fun hnil => hne (String.toList_inj.1 hnil)
  refine ⟨c, cs, ?_, hs⟩
  rintro rfl
  exact hbare (by simp [hs])

namespace Php

/-! ### The names of a clause -/

namespace WrittenName

theorem path_below (base n : WrittenName) : (base.below n).path = base.path ++ "\\" ++ n.path :=
  String.intercalate_append_of_ne_nil base.ne_nil n.ne_nil

/-- A path does not begin with a backslash. -/
theorem exists_toList_path_eq_cons (n : WrittenName) :
    ∃ c rest, c ≠ '\\' ∧ n.path.toList = c :: rest := by
  obtain ⟨s, ss, hsegments⟩ := List.exists_cons_of_ne_nil n.ne_nil
  obtain ⟨hne, hbare⟩ := n.bare s (by simp [hsegments])
  obtain ⟨c, cs, hc, hs⟩ := exists_toList_eq_cons hne hbare
  cases ss with
  | nil => exact ⟨c, cs, hc, by rw [path, hsegments, String.intercalate_singleton, hs]⟩
  | cons s' ss =>
      have hrest : n.path = s ++ ("\\" ++ "\\".intercalate (s' :: ss)) := by
        rw [path, hsegments, String.intercalate_cons_cons, String.append_assoc]
      exact ⟨c, _, hc, by rw [hrest, String.toList_append, hs, List.cons_append]⟩

/-- A path ends with the last segment. -/
theorem path_eq_last (n : WrittenName) :
    n.path = n.last ∨ ∃ before, n.path = before ++ "\\" ++ n.last := by
  have hsplit : n.segments.dropLast ++ [n.last] = n.segments := List.dropLast_concat_getLast _
  by_cases hone : n.segments.dropLast = []
  · left
    rw [path, ← hsplit, hone, List.nil_append, String.intercalate_singleton]
  · right
    refine ⟨"\\".intercalate n.segments.dropLast, ?_⟩
    rw [path, ← hsplit, String.intercalate_append_of_ne_nil hone (List.cons_ne_nil _ _),
      String.intercalate_singleton, hsplit]

theorem bare_last (n : WrittenName) : n.last ≠ "" ∧ '\\' ∉ n.last.toList :=
  n.bare _ (List.getLast_mem n.ne_nil)

theorem shortName_path (n : WrittenName) : shortName n.path = n.last := by
  obtain ⟨-, hbare⟩ := n.bare_last
  obtain hone | ⟨before, hmore⟩ := n.path_eq_last
  · rw [hone]
    exact Index.shortName_eq_self (by simpa [Text.hasChar] using hbare)
  · have hcut : Text.cutLast '\\' (before ++ "\\" ++ n.last) = some (before, n.last) :=
      Text.cutLast_append hbare before
    rw [hmore, shortName, Text.afterLast, hcut]
    rfl

theorem unrooted_path (n : WrittenName) : Text.startsWith "\\" n.path = false := by
  obtain ⟨c, rest, hc, hpath⟩ := n.exists_toList_path_eq_cons
  rw [Bool.eq_false_iff, Ne, Text.startsWith_iff]
  rintro ⟨rest', hsame⟩
  rw [hsame, String.toList_append] at hpath
  exact hc (List.cons.inj hpath).1.symm

/-- Without its backslash in front, a name is its path. -/
theorem dropPrefix?_text (n : WrittenName) :
    (Text.dropPrefix? "\\" n.text).getD n.text = n.path := by
  cases hrooted : n.rooted with
  | false =>
      have hnone := Text.dropPrefix?_eq_none n.unrooted_path
      simp [text, hrooted, hnone]
  | true =>
      have hsome : Text.dropPrefix? "\\" ("\\" ++ n.path) = some n.path :=
        Text.dropPrefix?_eq_some_iff.2 rfl
      simp [text, hrooted, hsome]

/-- Without backslashes at its ends, a name is its path. -/
theorem trimBoth_text (n : WrittenName) : Text.trimBoth (· == '\\') n.text = n.path := by
  obtain ⟨c, rest, hc, hpath⟩ := n.exists_toList_path_eq_cons
  have hstart : n.text.toList.dropWhile (· == '\\') = n.path.toList := by
    cases hrooted : n.rooted <;> simp [text, hrooted, hpath, hc]
  have hend : Text.trimEndChars (· == '\\') n.path.toList = n.path.toList := by
    obtain ⟨hne, hbare⟩ := n.bare_last
    obtain ⟨init, d, hlast⟩ : ∃ init d, n.last.toList = init ++ [d] :=
      List.eq_nil_or_concat' _ |>.resolve_left fun h => hne (String.toList_inj.1 h)
    have hd : d ≠ '\\' := by
      rintro rfl
      exact hbare (by simp [hlast])
    have htrim : ∀ before : List Char,
        Text.trimEndChars (· == '\\') (before ++ [d]) = before ++ [d] := by
      intro before
      simp [Text.trimEndChars, hd]
    obtain hone | ⟨before, hmore⟩ := n.path_eq_last
    · rw [hone, hlast, htrim]
    · rw [hmore, String.toList_append, hlast, ← List.append_assoc, htrim]
  rw [Text.trimBoth, hstart, hend, String.ofList_toList]

end WrittenName

/-- The alias of an item: the one it is given, or the last segment of its path. -/
def WrittenItem.importedAs (i : WrittenItem) : String := i.short.getD i.name.last

/-- The alias of an item with the path it stands for. -/
def WrittenItem.declared (i : WrittenItem) : String × String := (i.importedAs, i.name.path)

/-- The item of a group by its full name. -/
def WrittenItem.below (base : WrittenName) (i : WrittenItem) : WrittenItem :=
  ⟨base.below i.name, i.short⟩

theorem fullPath_tree (i : WrittenItem) : i.tree.fullPath none = i.name.path :=
  i.name.dropPrefix?_text

theorem fullPath_tree_below (base : WrittenName) (i : WrittenItem) :
    i.tree.fullPath (some base.text) = (i.below base).name.path := by
  have hbelow : (i.below base).name.path = base.path ++ "\\" ++ i.name.path :=
    base.path_below i.name
  rw [hbelow, ← base.trimBoth_text, ← i.name.dropPrefix?_text]
  rfl

namespace ImportClause

/-- The class-likes a clause imports, by their full names. -/
def items : ImportClause → List WrittenItem
  | list first more => first :: more
  | others _ _ _ => []
  | group base es => (classItems es).map (WrittenItem.below base)
  | otherGroup _ _ _ => []

/-- A clause for one item. -/
def single : Option OtherImport → WrittenItem → ImportClause
  | none, i => list i []
  | some kind, i => others kind i []

/-- One clause for each item of a clause. -/
def expanded : ImportClause → List ImportClause
  | list first more => (first :: more).map (single none)
  | others kind first more => (first :: more).map (single (some kind))
  | group base es => es.map fun e => single e.1 (e.2.below base)
  | otherGroup kind base is => is.map fun i => single (some kind) (i.below base)

/-- A clause without functions and constants. -/
def withoutOthers : ImportClause → List ImportClause
  | list first more => [list first more]
  | others _ _ _ => []
  | group base es => [group base (es.filter fun e => e.1.isNone)]
  | otherGroup _ _ _ => []

/-- The imports of a clause are those of its class-likes. -/
theorem importsWithinStmt_statement (c : ImportClause) :
    Analysis.importsWithinStmt c.statement = c.items.map WrittenItem.declared := by
  cases c with
  | list first more =>
      rw [statement, Analysis.importsWithinStmt, Analysis.importsOfGroup, List.map_map]
      refine List.map_congr_left fun i _ => ?_
      simp only [Function.comp_apply, fullPath_tree]
      rw [WrittenName.shortName_path]
      rfl
  | others => rfl
  | group base es =>
      rw [statement, Analysis.importsWithinStmt, Analysis.importsOfGroup, List.map_map, items,
        List.map_map]
      refine List.map_congr_left fun i _ => ?_
      simp only [Function.comp_apply, fullPath_tree_below]
      rw [WrittenName.shortName_path]
      rfl
  | otherGroup => rfl

theorem flatMap_items_single (kind : Option OtherImport) (is : List WrittenItem) :
    (is.map (single kind)).flatMap items = if kind.isNone then is else [] := by
  induction is with
  | nil => cases kind <;> rfl
  | cons i is ih =>
      rw [List.map_cons, List.flatMap_cons, ih]
      cases kind <;> rfl

theorem flatMap_items_expanded (c : ImportClause) : c.expanded.flatMap items = c.items := by
  cases c with
  | list first more => exact flatMap_items_single none (first :: more)
  | others kind first more => exact flatMap_items_single (some kind) (first :: more)
  | group base es =>
      rw [expanded, items, classItems]
      induction es with
      | nil => rfl
      | cons e es ih =>
          rw [List.map_cons, List.flatMap_cons, ih]
          obtain ⟨_ | kind, i⟩ := e <;> rfl
  | otherGroup kind base is =>
      have hmap : (otherGroup kind base is).expanded
          = (is.map (WrittenItem.below base)).map (single (some kind)) := by
        rw [List.map_map]
        rfl
      rw [hmap]
      exact flatMap_items_single (some kind) _

theorem flatMap_items_withoutOthers (c : ImportClause) :
    c.withoutOthers.flatMap items = c.items := by
  cases c with
  | list first more => exact List.append_nil _
  | others => rfl
  | group base es =>
      rw [withoutOthers, List.flatMap_singleton, items, items, classItems, classItems,
        List.filterMap_filter]
      congr 1
      refine congrArg (List.filterMap · es) (funext fun e => ?_)
      cases h : e.1.isNone <;> simp
  | otherGroup => rfl

end ImportClause

/-! ### The imports of a program -/

/-- The statement is neither an import nor a namespace with statements of its own. -/
def importsNothing : Stmt → Bool
  | .scope _ _ => false
  | .imports _ => false
  | _ => true

/-- The imports among the statements of a program and in its namespaces, in their order. -/
inductive ImportsAre : List Stmt → List ImportClause → Prop
  | nil : ImportsAre [] []
  | clause {ss : List Stmt} {cs : List ImportClause} (c : ImportClause) :
      ImportsAre ss cs → ImportsAre (c.statement :: ss) (c :: cs)
  | scope {name : Option String} {body ss : List Stmt} {bs cs : List ImportClause} :
      ImportsAre body bs → ImportsAre ss cs → ImportsAre (.scope name body :: ss) (bs ++ cs)
  | other {s : Stmt} {ss : List Stmt} {cs : List ImportClause} :
      importsNothing s = true → ImportsAre ss cs → ImportsAre (s :: ss) cs

namespace ImportsAre

variable {program : List Stmt} {cs : List ImportClause}

/-- **The imports of a program are those of its clauses**, whatever form these have. -/
theorem importsWithin (h : ImportsAre program cs) :
    Analysis.importsWithin program
      = (cs.flatMap ImportClause.items).map WrittenItem.declared := by
  induction h with
  | nil => rfl
  | clause c _ ih =>
      rw [Analysis.importsWithin, c.importsWithinStmt_statement, ih, List.flatMap_cons,
        List.map_append]
  | scope _ _ ihBody ih =>
      rw [Analysis.importsWithin, Analysis.importsWithinStmt, ihBody, ih, List.flatMap_append,
        List.map_append]
  | @other s ss cs hs _ ih =>
      have hnone : Analysis.importsWithinStmt s = [] := by
        cases s <;> first | rfl | cases hs
      rw [Analysis.importsWithin, hnone, List.nil_append, ih]

theorem statements (cs : List ImportClause) : ImportsAre (cs.map ImportClause.statement) cs := by
  induction cs with
  | nil => exact nil
  | cons c cs ih => exact clause c ih

end ImportsAre

end Php

open Php (ImportClause ImportsAre WrittenItem)

/-! ### Looking up -/

namespace Imports

theorem put_eq_append {short path : String} {es : List (String × String)}
    (h : ∀ e ∈ es, e.1 ≠ short) : put short path es = es ++ [(short, path)] := by
  induction es with
  | nil => rfl
  | cons e es ih =>
      obtain ⟨he, hes⟩ := List.forall_mem_cons.1 h
      simp [put, he, ih hes]

/-- A list of imports under different aliases is its own table. -/
theorem entries_ofList {items : List (String × String)}
    (h : items.Pairwise fun e e' => e.1 ≠ e'.1) : (ofList items).entries = items := by
  have hall : ∀ (items : List (String × String)) (imports : Imports),
      (imports.entries ++ items).Pairwise (fun e e' => e.1 ≠ e'.1) →
      (items.foldl (fun imports e => imports.insert e.1 e.2) imports).entries
        = imports.entries ++ items := by
    intro items
    induction items with
    | nil => exact fun imports _ => (List.append_nil _).symm
    | cons e items ih =>
        intro imports hdistinct
        have hnew : ∀ e' ∈ imports.entries, e'.1 ≠ e.1 := fun e' he' =>
          (List.pairwise_append.1 hdistinct).2.2 e' he' e List.mem_cons_self
        have hput : (imports.insert e.1 e.2).entries = imports.entries ++ [e] := put_eq_append hnew
        rw [List.foldl_cons, ih _ (by rwa [hput, List.append_assoc]), hput, List.append_assoc]
        rfl
  exact hall items {} h

variable {imports : Imports} {name : String}

/-- A name is looked up among whatever is spelled like it. -/
theorem find?_eq_some {e : String × String} (hmem : e ∈ imports.entries)
    (hname : spelled name e = true)
    (hone : ∀ e' ∈ imports.entries, spelled name e' = true → e' = e) :
    imports.find? name = some e.2 := by
  unfold find?
  cases hexact : imports.entries.find? (fun e => e.1 == name) with
  | some e' =>
      have hspelled : spelled name e' = true := by
        have hsame := List.find?_some hexact
        simp [spelled, Text.sameFold, beq_iff_eq.1 hsame]
      rw [hone e' (List.mem_of_find?_eq_some hexact) hspelled]
  | none =>
      cases hfold : imports.entries.find? (fun e => Text.sameFold e.1 name) with
      | some e' =>
          rw [hone e' (List.mem_of_find?_eq_some hfold) (List.find?_some hfold)]
          rfl
      | none => exact absurd hname (List.find?_eq_none.1 hfold e hmem)

theorem find?_eq_none (h : ∀ e ∈ imports.entries, spelled name e = false) :
    imports.find? name = none := by
  have hexact : imports.entries.find? (fun e => e.1 == name) = none := by
    refine List.find?_eq_none.2 fun e he hsame => ?_
    have hspelled := h e he
    simp [spelled, Text.sameFold, beq_iff_eq.1 hsame] at hspelled
  have hfold : imports.entries.find? (fun e => Text.sameFold e.1 name) = none :=
    List.find?_eq_none.2 fun e he => Bool.eq_false_iff.1 (h e he)
  rw [find?, hexact, hfold]
  rfl

end Imports

/-! ### Qualifying names -/

/-- The table of imports of a program. -/
def tableOf (uri : String) (content : List Char) (program : List Php.Stmt) : Imports :=
  (Symbols.ofStatements uri content program).imports

/-- A name that does not begin with a backslash, as its first segment and the remainder. -/
structure Divided (name first rest : String) : Prop where
  whole : name = first ++ rest
  ne_empty : first ≠ ""
  bare : '\\' ∉ first.toList
  behind : rest = "" ∨ ∃ more, rest = "\\" ++ more

namespace Divided

variable {name first rest : String}

theorem unrooted (h : Divided name first rest) : Text.startsWith "\\" name = false := by
  obtain ⟨c, cs, hc, hfirst⟩ := exists_toList_eq_cons h.ne_empty h.bare
  rw [Bool.eq_false_iff, Ne, Text.startsWith_iff]
  rintro ⟨more, hmore⟩
  have hchars := congrArg String.toList (h.whole.symm.trans hmore)
  rw [String.toList_append, String.toList_append, hfirst] at hchars
  exact hc (List.cons.inj hchars).1

theorem splitFirst (h : Divided name first rest) : Imports.splitFirst name = (first, rest) := by
  obtain ⟨rfl, -, hbare, rfl | ⟨more, rfl⟩⟩ := h
  · have hcut : Text.cutFirst '\\' (first ++ "") = none := by
      rw [String.append_empty, ← Option.not_isSome_iff_eq_none, Text.isSome_cutFirst_iff]
      exact hbare
    rw [Imports.splitFirst, hcut, String.append_empty]
  · have hcut : Text.cutFirst '\\' (first ++ ("\\" ++ more)) = some (first, more) := by
      rw [← String.append_assoc]
      exact Text.cutFirst_append hbare more
    rw [Imports.splitFirst, hcut]

end Divided

namespace Imports

variable {imports : Imports} {name : String}

theorem qualify_rooted (scope : Option String) (h : Text.startsWith "\\" name = true) :
    imports.qualify scope name = name := by
  unfold qualify
  rw [if_pos h]

theorem qualify_imported {path : String} (scope : Option String)
    (h : Text.startsWith "\\" name = false)
    (hfind : imports.find? (splitFirst name).1 = some path) :
    imports.qualify scope name = "\\" ++ path ++ (splitFirst name).2 := by
  unfold qualify
  rw [if_neg (Bool.eq_false_iff.1 h), hfind]

/-- A name that is not imported stands for one in the namespace. -/
theorem qualify_unimported (scope : Option String) (h : Text.startsWith "\\" name = false)
    (hfind : imports.find? (splitFirst name).1 = none) :
    imports.qualify scope name = "\\" ++ declaredName scope name := by
  unfold qualify
  rw [if_neg (Bool.eq_false_iff.1 h), hfind]
  cases scope <;> simp [declaredName, String.append_assoc]

/-- The case of a name does not show in where it is cut. -/
theorem splitFirst_lower (name : String) :
    splitFirst (Text.lower name)
      = (Text.lower (splitFirst name).1, Text.lower (splitFirst name).2) := by
  rw [splitFirst, splitFirst, Text.cutFirst_lower]
  cases Text.cutFirst '\\' name with
  | none => rfl
  | some parts => simp [Text.lower]

end Imports

/-! ### Composition -/

/-- How imports and names go together in a program whose imports are the given clauses. -/
structure ImportsCompose (uri : String) (content : List Char) (program : List Php.Stmt)
    (clauses : List ImportClause) : Prop where
  /-- Tokens of these clauses are read as a program with these imports. -/
  read : ∀ opening tokens, opening.kind = .openTag → Php.SpelledImports clauses tokens →
    Php.Advances 0 (opening :: tokens) → ImportsAre (Php.parseTokens (opening :: tokens)) clauses
  /-- The table has each class-like that is imported, under its alias, and nothing else. -/
  table : (tableOf uri content program).entries
    = (clauses.flatMap ImportClause.items).map WrittenItem.declared
  /-- In whatever order the table is searched, an alias stands for the path behind it, up to ASCII
  case and in any namespace. -/
  imported : ∀ imports : Imports, imports.entries.Perm (tableOf uri content program).entries →
    ∀ i ∈ clauses.flatMap ImportClause.items, ∀ scope name first rest, Divided name first rest →
      Text.sameFold first i.importedAs = true →
      imports.qualify scope name = "\\" ++ i.name.path ++ rest
  /-- Any other name stands for one in the namespace. -/
  unimported : ∀ imports : Imports, imports.entries.Perm (tableOf uri content program).entries →
    ∀ scope name first rest, Divided name first rest →
      (∀ i ∈ clauses.flatMap ImportClause.items, Text.sameFold first i.importedAs = false) →
      imports.qualify scope name = "\\" ++ declaredName scope name
  /-- A name with a backslash in front stands for itself. -/
  rooted : ∀ imports scope rest, Imports.qualify imports scope ("\\" ++ rest) = "\\" ++ rest
  /-- Functions and constants make no difference, wherever they are imported. -/
  others : ∀ before c after, clauses = before ++ c :: after →
    ∀ program', ImportsAre program' (before ++ (c.withoutOthers ++ after)) →
      tableOf uri content program' = tableOf uri content program
  /-- A clause with several items makes the same table as one clause for each of them. -/
  expanded : ∀ before c after, clauses = before ++ c :: after →
    ∀ program', ImportsAre program' (before ++ (c.expanded ++ after)) →
      tableOf uri content program' = tableOf uri content program
  /-- Names that are equal up to ASCII case stand for paths that the index does not tell apart. -/
  folded : ∀ imports imports' : Imports,
    imports.entries.Perm (tableOf uri content program).entries →
    imports'.entries.Perm (tableOf uri content program).entries →
    ∀ scope name name', Text.sameFold name name' = true →
      pathKey (imports.qualify scope name) = pathKey (imports'.qualify scope name')

theorem tableOf_eq {uri : String} {content : List Char} {program : List Php.Stmt}
    {clauses : List ImportClause} (h : ImportsAre program clauses) :
    tableOf uri content program
      = .ofList ((clauses.flatMap ImportClause.items).map WrittenItem.declared) := by
  rw [tableOf, Analysis.imports_ofStatements, h.importsWithin]

/-- Programs with the same class-likes imported have the same table. -/
theorem tableOf_congr {uri : String} {content : List Char} {program program' : List Php.Stmt}
    {clauses clauses' : List ImportClause} (h : ImportsAre program clauses)
    (h' : ImportsAre program' clauses')
    (hitems : clauses'.flatMap ImportClause.items = clauses.flatMap ImportClause.items) :
    tableOf uri content program' = tableOf uri content program := by
  rw [tableOf_eq h, tableOf_eq h', hitems]

section Entries

variable {is : List WrittenItem} {imports imports' : Imports} {name : String}

theorem spelled_declared (i : WrittenItem) :
    Imports.spelled name i.declared = Text.sameFold name i.importedAs := by
  rw [Imports.spelled, WrittenItem.declared, Text.sameFold, Text.sameFold, Bool.beq_comm]

/-- An alias is found in a table in which no other is spelled like it, in whatever order. -/
theorem find?_declared
    (hdistinct : (is.map WrittenItem.importedAs).Pairwise fun a b => Text.sameFold a b = false)
    (hentries : imports.entries.Perm (is.map WrittenItem.declared)) {i : WrittenItem} (hi : i ∈ is)
    (hname : Text.sameFold name i.importedAs = true) :
    imports.find? name = some i.name.path := by
  have : Std.Symm fun i j : WrittenItem => Text.sameFold i.importedAs j.importedAs = false :=
    ⟨fun i j hij => by rwa [Text.sameFold, Bool.beq_comm]⟩
  refine Imports.find?_eq_some (hentries.mem_iff.2 (List.mem_map_of_mem hi))
    ((spelled_declared i).trans hname) fun e he hspelled => ?_
  obtain ⟨j, hj, rfl⟩ := List.mem_map.1 (hentries.mem_iff.1 he)
  rw [spelled_declared, Text.sameFold_iff] at hspelled
  by_contra hne
  -- two items whose aliases are spelled like one name are one item
  have hij : i ≠ j := fun hsame => hne (hsame ▸ rfl)
  have hdiffer := (List.pairwise_map.1 hdistinct).forall hi hj hij
  have hsame : Text.sameFold i.importedAs j.importedAs = true :=
    Text.sameFold_iff.2 ((Text.sameFold_iff.1 hname).symm.trans hspelled)
  rw [hsame] at hdiffer
  cases hdiffer

theorem find?_undeclared (hentries : imports.entries.Perm (is.map WrittenItem.declared))
    (hname : ∀ i ∈ is, Text.sameFold name i.importedAs = false) :
    imports.find? name = none := by
  refine Imports.find?_eq_none fun e he => ?_
  obtain ⟨i, hi, rfl⟩ := List.mem_map.1 (hentries.mem_iff.1 he)
  rw [spelled_declared, hname i hi]

/-- Names that are spelled alike are looked up alike, also in another order. -/
theorem find?_folded
    (hdistinct : (is.map WrittenItem.importedAs).Pairwise fun a b => Text.sameFold a b = false)
    (hentries : imports.entries.Perm (is.map WrittenItem.declared))
    (hentries' : imports'.entries.Perm (is.map WrittenItem.declared)) {name' : String}
    (hname : Text.lower name = Text.lower name') :
    imports.find? name = imports'.find? name' := by
  have hsame : ∀ i : WrittenItem,
      Text.sameFold name i.importedAs = Text.sameFold name' i.importedAs := by
    intro i
    rw [Text.sameFold, Text.sameFold, hname]
  by_cases hany : ∃ i ∈ is, Text.sameFold name i.importedAs = true
  · obtain ⟨i, hi, hspelled⟩ := hany
    rw [find?_declared hdistinct hentries hi hspelled,
      find?_declared hdistinct hentries' hi (hsame i ▸ hspelled)]
  · have hnone : ∀ i ∈ is, Text.sameFold name i.importedAs = false := fun i hi =>
      Bool.eq_false_iff.2 fun hspelled => hany ⟨i, hi, hspelled⟩
    rw [find?_undeclared hentries hnone,
      find?_undeclared hentries' fun i hi => hsame i ▸ hnone i hi]

/-- Names that are spelled alike stand for paths that are. -/
theorem pathKey_qualify_folded
    (hdistinct : (is.map WrittenItem.importedAs).Pairwise fun a b => Text.sameFold a b = false)
    (hentries : imports.entries.Perm (is.map WrittenItem.declared))
    (hentries' : imports'.entries.Perm (is.map WrittenItem.declared)) (scope : Option String)
    {name' : String}
    (hname : Text.lower name = Text.lower name') :
    pathKey (imports.qualify scope name)
      = pathKey (imports'.qualify scope name') := by
  have hstart : Text.startsWith "\\" name = Text.startsWith "\\" name' := by
    rw [← Text.startsWith_lower name, hname, Text.startsWith_lower]
  cases hrooted : Text.startsWith "\\" name with
  | true =>
      rw [Imports.qualify_rooted scope hrooted, Imports.qualify_rooted scope (hstart ▸ hrooted)]
      obtain ⟨rest, rfl⟩ := Text.startsWith_iff.1 hrooted
      obtain ⟨rest', rfl⟩ := Text.startsWith_iff.1 (hstart ▸ hrooted)
      rw [Text.lower_append, Text.lower_append] at hname
      rw [Index.pathKey_backslash, Index.pathKey_backslash]
      exact String.append_right_inj _ |>.1 hname
  | false =>
      have hrooted' := hstart ▸ hrooted
      obtain ⟨hfirst, hrest⟩ : Text.lower (Imports.splitFirst name).1
            = Text.lower (Imports.splitFirst name').1 ∧
          Text.lower (Imports.splitFirst name).2 = Text.lower (Imports.splitFirst name').2 := by
        rw [← Prod.mk.injEq, ← Imports.splitFirst_lower, hname, Imports.splitFirst_lower]
      have hfind := find?_folded hdistinct hentries hentries' hfirst
      cases hpath : imports'.find? (Imports.splitFirst name').1 with
      | some path =>
          rw [Imports.qualify_imported scope hrooted (hfind.trans hpath),
            Imports.qualify_imported scope hrooted' hpath, String.append_assoc,
            String.append_assoc, Index.pathKey_backslash, Index.pathKey_backslash,
            Text.lower_append, Text.lower_append, hrest]
      | none =>
          rw [Imports.qualify_unimported scope hrooted (hfind.trans hpath),
            Imports.qualify_unimported scope hrooted' hpath, Index.pathKey_backslash,
            Index.pathKey_backslash]
          cases scope with
          | none => exact hname
          | some ns => simp only [declaredName, Text.lower_append, hname]

end Entries

/-- **Extracting imports and qualifying names compose**: whatever forms the imports of a program
have, if no two aliases of class-likes are equal up to ASCII case, each name stands for what is
imported under its first segment. -/
theorem imports_compose {program : List Php.Stmt} {clauses : List ImportClause}
    (h : ImportsAre program clauses)
    (hdistinct : ((clauses.flatMap ImportClause.items).map WrittenItem.importedAs).Pairwise
      fun a b => Text.sameFold a b = false)
    (uri : String) (content : List Char) : ImportsCompose uri content program clauses := by
  have htable : (tableOf uri content program).entries
      = (clauses.flatMap ImportClause.items).map WrittenItem.declared := by
    rw [tableOf_eq h]
    refine Imports.entries_ofList (List.pairwise_map.2 ?_)
    refine (List.pairwise_map.1 hdistinct).imp fun hij hsame => ?_
    exact Bool.eq_false_iff.1 hij (Text.sameFold_iff.2 (congrArg Text.lower hsame))
  have hrooted : ∀ (imports : Imports) scope rest,
      imports.qualify scope ("\\" ++ rest) = "\\" ++ rest := fun imports scope rest =>
    Imports.qualify_rooted scope (Text.startsWith_iff.2 ⟨rest, rfl⟩)
  exact {
    read := fun opening tokens hopening htokens hplaces => by
      rw [Php.parseTokens_spelled hopening htokens hplaces]
      exact .other rfl (.statements clauses)
    table := htable
    imported := fun imports hentries i hi scope name first rest hname hfirst => by
      have hsplit := hname.splitFirst
      have hfind := find?_declared hdistinct (htable ▸ hentries) hi hfirst
      rw [Imports.qualify_imported scope hname.unrooted (by rw [hsplit, hfind]), hsplit]
    unimported := fun imports hentries scope name first rest hname hfirst => by
      have hfind := find?_undeclared (htable ▸ hentries) hfirst
      exact Imports.qualify_unimported scope hname.unrooted (by rw [hname.splitFirst, hfind])
    rooted := hrooted
    others := fun before c after hclauses program' h' => by
      refine tableOf_congr h h' ?_
      rw [hclauses]
      simp only [List.flatMap_append, List.flatMap_cons, c.flatMap_items_withoutOthers]
    expanded := fun before c after hclauses program' h' => by
      refine tableOf_congr h h' ?_
      rw [hclauses]
      simp only [List.flatMap_append, List.flatMap_cons, c.flatMap_items_expanded]
    folded := fun imports imports' hentries hentries' scope name name' hname =>
      pathKey_qualify_folded hdistinct (htable ▸ hentries) (htable ▸ hentries') scope
        (Text.sameFold_iff.1 hname) }

/-- Imports of several forms, and the same ones in a file. -/
theorem imports_compose_forms :
    let phake : WrittenItem := ⟨⟨true, ["Lib", "Phake"], by decide, by decide⟩, none⟩
    let models : Php.WrittenName := ⟨false, ["App", "Models"], by decide, by decide⟩
    let user : WrittenItem := ⟨⟨false, ["User"], by decide, by decide⟩, some "Person"⟩
    let run : WrittenItem := ⟨⟨false, ["run"], by decide, by decide⟩, none⟩
    let clauses : List ImportClause :=
      [.list phake [], .group models [(none, user), (some .function, run)],
        .others .function run []]
    let program := clauses.map ImportClause.statement
    let text := "<?php use \\Lib\\Phake; use App\\Models\\\x7bUser as Person, function run\x7d;"
      ++ " use function run;"
    ImportsCompose "file:///t.php" text.toList program clauses ∧
      (tableOf "file:///t.php" text.toList program).qualify (some "Tests") "person\\Id"
        = "\\App\\Models\\User\\Id" ∧
      (symbolsOfText "file:///t.php" text).imports
        = tableOf "file:///t.php" text.toList program := by
  intro phake models user run clauses program text
  have hcompose : ImportsCompose "file:///t.php" text.toList program clauses :=
    imports_compose (.statements clauses) (by decide) _ _
  have hname : Divided "person\\Id" "person" "\\Id" :=
    ⟨rfl, by decide, by decide, .inr ⟨"Id", rfl⟩⟩
  have huser : user.below models ∈ clauses.flatMap ImportClause.items := by
    simp [clauses, ImportClause.items, Php.classItems]
  have hperson := hcompose.imported _ (.refl _) _ huser (some "Tests") _ _ _ hname (by decide)
  have hpath : "\\" ++ (user.below models).name.path ++ "\\Id"
      = "\\App\\Models\\User\\Id" := by
    decide +kernel
  have hfile : (symbolsOfText "file:///t.php" text).imports
      = tableOf "file:///t.php" text.toList program := by
    decide +kernel
  exact ⟨hcompose, hperson.trans hpath, hfile⟩

end MockLens
