/-
**Imports of one block: what the one table of a file does to its blocks.**

A file may hold several namespaces, each a block with imports of its own.  The walk of the analysis
keeps track of the namespaces, but it has one table of imports, with those of all blocks in it
(`MockLens/Symbols.lean`).  Here the walk is held against one that turns to the imports of each
block where the block begins.  The two agree whenever every class reference stands for the same
class by the table of the file as by the imports of its own block, and so it does if no other block
imports the name it begins with.  Otherwise an import of one block is taken for one of another.

Main definitions:

* `Imports.ofList` — the table of a list of imports;
* `importsWithin`, `importsIn` — all imports of statements, and those directly among them;
* `Block`, `blocksOf` — the blocks of a program, and `Block.imports`, `Block.refs`;
* `visitBlockwise`, `ofBlocks` — **the analysis block by block**;
* `ImportsByBlock` — when the analysis of a text is that.

Main results:

* `Symbols.imports_ofStatements` — the table of a file has the imports of all blocks;
* `Imports.find?_ofList_congr` — a name is looked up among the imports that are spelled like it;
* `visitAll_eq_visitBlockwiseAll` — the walk goes block by block if the references allow it;
* `imports_by_block` — **when the analysis of a text goes block by block**;
* `import_of_another_block` — a text in which it does not.
-/
import MockLens.Document
import MockLens.Proofs.ClassReferences

set_option autoImplicit false

namespace MockLens

/-! ### Tables of imports -/

namespace Imports

/-- The table of imports, each an alias and a path, in the order of their declaration. -/
def ofList (items : List (String × String)) : Imports :=
  items.foldl (fun imports e => imports.insert e.1 e.2) {}

/-- An import is spelled like a name, up to ASCII case. -/
def spelled (name : String) (e : String × String) : Bool := Text.sameFold e.1 name

/-- Declaring an alias that is spelled differently changes nothing among the imports that are
spelled like a name. -/
theorem filter_put (name short path : String) (es : List (String × String)) :
    (put short path es).filter (spelled name)
      = if Text.sameFold short name then put short path (es.filter (spelled name))
        else es.filter (spelled name) := by
  induction es with
  | nil =>
      by_cases hname : Text.sameFold short name = true <;> simp [put, spelled, hname]
  | cons e es ih =>
      by_cases hshort : e.1 = short
      · -- the entry is replaced, and its alias stays the same
        by_cases hname : Text.sameFold short name = true <;> simp [put, spelled, hshort, hname]
      · have hput : put short path (e :: es) = e :: put short path es := by simp [put, hshort]
        rw [hput, List.filter_cons, List.filter_cons, ih]
        by_cases he : spelled name e = true
        · by_cases hname : Text.sameFold short name = true <;> simp [put, he, hname, hshort]
        · simp [he]

/-- Only the imports that are spelled like a name come into the search for it. -/
theorem find?_congr {imports imports' : Imports} {name : String}
    (h : imports.entries.filter (spelled name) = imports'.entries.filter (spelled name)) :
    imports.find? name = imports'.find? name := by
  have hsearch : ∀ (p : String × String → Bool), (∀ e, p e = true → spelled name e = true) →
      imports.entries.find? p = imports'.entries.find? p := by
    intro p hp
    have hboth : (fun e => decide (spelled name e = true ∧ p e = true)) = p := by
      funext e
      cases he : p e with
      | false => simp
      | true => simp [hp e he]
    have hkept : ∀ es : List (String × String), (es.filter (spelled name)).find? p = es.find? p := by
      intro es
      rw [List.find?_filter, hboth]
    rw [← hkept, h, hkept]
  have hexact : ∀ e : String × String, (e.1 == name) = true → spelled name e = true := by
    intro e he
    simp [spelled, Text.sameFold, beq_iff_eq.1 he]
  unfold find?
  rw [hsearch _ hexact, hsearch (fun e => Text.sameFold e.1 name) fun _ he => he]

/-- **A name is looked up among the imports that are spelled like it.** -/
theorem find?_ofList_congr {items items' : List (String × String)} {name : String}
    (h : items.filter (spelled name) = items'.filter (spelled name)) :
    (ofList items).find? name = (ofList items').find? name := by
  have hfilter : ∀ (items : List (String × String)) (imports : Imports),
      (items.foldl (fun imports e => imports.insert e.1 e.2) imports).entries.filter (spelled name)
        = (items.filter (spelled name)).foldl (fun es e => put e.1 e.2 es)
            (imports.entries.filter (spelled name)) := by
    intro items
    induction items with
    | nil => exact fun _ => rfl
    | cons e items ih =>
        intro imports
        rw [List.foldl_cons, ih, insert, filter_put]
        by_cases he : Text.sameFold e.1 name = true <;> simp [spelled, he]
  refine find?_congr ?_
  rw [ofList, ofList, hfilter, hfilter, h]

end Imports

namespace Analysis

open Php (Expr Stmt)

/-- The imports of one statement, each an alias and a path. -/
def importsOfGroup (group : Php.ImportGroup) : List (String × String) :=
  group.items.map fun item =>
    (item.short.getD (shortName (item.fullPath group.base)), item.fullPath group.base)

mutual

/-- The imports within a statement, in the order of the source. -/
def importsWithinStmt : Stmt → List (String × String)
  | .scope _ body => importsWithin body
  | .imports group => importsOfGroup group
  | _ => []

/-- The imports within statements. -/
def importsWithin : List Stmt → List (String × String)
  | [] => []
  | s :: ss => importsWithinStmt s ++ importsWithin ss

end

/-- The imports directly among statements. -/
def importsIn (ss : List Stmt) : List (String × String) :=
  ss.flatMap fun
    | .imports group => importsOfGroup group
    | _ => []

/-! ### Blocks -/

/-- A namespace with the statements in it. -/
structure Block where
  scope : Option String
  body : List Stmt

/-- The references of a statement, unless it is a block of its own. -/
def ownRefs (scope : Option String) : Stmt → List ClassRef
  | .scope _ _ => []
  | s => refsOfStmt scope s

/-- The imports of the block. -/
def Block.imports (b : Block) : Imports := .ofList (importsIn b.body)

/-- The class references of the block. -/
def Block.refs (b : Block) : List ClassRef := b.body.flatMap (ownRefs b.scope)

mutual

/-- The blocks within a statement. -/
def blocksWithinStmt : Stmt → List Block
  | .scope name body => ⟨namedScope name, body⟩ :: blocksWithin body
  | _ => []

/-- The blocks within statements. -/
def blocksWithin : List Stmt → List Block
  | [] => []
  | s :: ss => blocksWithinStmt s ++ blocksWithin ss

end

/-- The blocks of a program: the top level and the namespaces. -/
def blocksOf (program : List Stmt) : List Block := ⟨none, program⟩ :: blocksWithin program

mutual

/-- Visits a statement of a block with the imports `own`; a block in it is visited with those of its
own. -/
def visitBlockwise (own : Imports) : Stmt → State → State
  | .scope name body, st =>
    { visitBlockwiseAll (.ofList (importsIn body)) body { st with scope := namedScope name } with
      scope := st.scope }
  | s, st => visit own s st

/-- Visits the statements of a block. -/
def visitBlockwiseAll (own : Imports) : List Stmt → State → State
  | [], st => st
  | s :: ss, st => visitBlockwiseAll own ss (visitBlockwise own s st)

end

/-- The analysis of a program, block by block. -/
def ofBlocks (program : List Stmt) : Analysis :=
  (visitBlockwiseAll (.ofList (importsIn program)) program {}).records

/-! ### The table of a file -/

theorem register_eq_foldl (group : Php.ImportGroup) (imports : Imports) :
    group.register imports
      = (importsOfGroup group).foldl (fun imports e => imports.insert e.1 e.2) imports := by
  rw [importsOfGroup, List.foldl_map]
  rfl

mutual

theorem imports_addStatement (uri : String) (content : List Char) (scope : Option String)
    (s : Stmt) (symbols : Symbols) :
    (Symbols.addStatement uri content scope symbols s).imports
      = (importsWithinStmt s).foldl (fun imports e => imports.insert e.1 e.2) symbols.imports := by
  cases s with
  | scope name body => exact imports_addStatements uri content (namedScope name) body _
  | imports group => exact register_eq_foldl group symbols.imports
  | _ => rfl

theorem imports_addStatements (uri : String) (content : List Char) (scope : Option String)
    (ss : List Stmt) (symbols : Symbols) :
    (Symbols.addStatements uri content scope symbols ss).imports
      = (importsWithin ss).foldl (fun imports e => imports.insert e.1 e.2) symbols.imports := by
  cases ss with
  | nil => rfl
  | cons s ss =>
      rw [importsWithin, List.foldl_append, Symbols.addStatements,
        imports_addStatements uri content scope ss, imports_addStatement uri content scope s]

end

/-- **The table of a file has the imports of all its blocks**, in the order of the source. -/
theorem imports_ofStatements (uri : String) (content : List Char) (program : List Stmt) :
    (Symbols.ofStatements uri content program).imports = .ofList (importsWithin program) :=
  imports_addStatements uri content none program {}

/-! ### Block by block -/

theorem scope_visitBlockwise (own : Imports) (s : Stmt) (st : State) :
    (visitBlockwise own s st).scope = st.scope := by
  cases s with
  | scope _ _ => rw [visitBlockwise]
  | _ => exact scope_visit own _ st

mutual

theorem visit_eq_visitBlockwise {imports own : Imports} (s : Stmt) {st : State}
    (hown : SameMeaning imports own (ownRefs st.scope s))
    (hblocks : ∀ b ∈ blocksWithinStmt s, SameMeaning imports b.imports b.refs) :
    visit imports s st = visitBlockwise own s st := by
  cases s with
  | scope name body =>
      rw [blocksWithinStmt, List.forall_mem_cons] at hblocks
      obtain ⟨hblock, hinner⟩ := hblocks
      have hbody : visitAll imports body { st with scope := namedScope name }
          = visitBlockwiseAll (.ofList (importsIn body)) body
              { st with scope := namedScope name } :=
        visitAll_eq_visitBlockwiseAll body hblock hinner
      rw [visitBlockwise, ← hbody, visit]
      rfl
  | _ => exact visit_congr _ hown

/-- **The walk goes block by block** if each reference stands for the same class by the one table as
by the imports of its block. -/
theorem visitAll_eq_visitBlockwiseAll {imports own : Imports} (ss : List Stmt) {st : State}
    (hown : SameMeaning imports own (ss.flatMap (ownRefs st.scope)))
    (hblocks : ∀ b ∈ blocksWithin ss, SameMeaning imports b.imports b.refs) :
    visitAll imports ss st = visitBlockwiseAll own ss st := by
  cases ss with
  | nil => rfl
  | cons s ss =>
      rw [List.flatMap_cons, sameMeaning_append] at hown
      rw [blocksWithin, List.forall_mem_append] at hblocks
      rw [visitAll, visitBlockwiseAll, visit_eq_visitBlockwise s hown.1 hblocks.1]
      refine visitAll_eq_visitBlockwiseAll ss ?_ hblocks.2
      rw [scope_visitBlockwise]
      exact hown.2

end

/-- When the analysis of a text goes block by block. -/
structure ImportsByBlock (uri text : String) : Prop where
  /-- So it does if each class reference stands for the same class by the table of the file as by
  the imports of its block. -/
  blockwise : (∀ b ∈ blocksOf (Php.parseFile text.toList),
      SameMeaning (symbolsOfText uri text).imports b.imports b.refs) →
    (Document.ofText uri text).analysis = ofBlocks (Php.parseFile text.toList)
  /-- A reference does if the imports that are spelled like the beginning of its name are, in the
  whole file, those of its block. -/
  kept : ∀ b ∈ blocksOf (Php.parseFile text.toList), ∀ r ∈ b.refs,
    (importsWithin (Php.parseFile text.toList)).filter
        (Imports.spelled (Imports.splitFirst r.name).1)
      = (importsIn b.body).filter (Imports.spelled (Imports.splitFirst r.name).1) →
    (symbolsOfText uri text).imports.qualify r.scope r.name = b.imports.qualify r.scope r.name
  /-- Whatever is imported in the file instead, a block is analysed as before if its references
  stand for the same classes as before. -/
  unaffected : ∀ b ∈ blocksOf (Php.parseFile text.toList), ∀ (imports' : Imports) (st : State),
    st.scope = b.scope →
    SameMeaning (symbolsOfText uri text).imports imports' (refsOfStmts b.scope b.body) →
    visitAll (symbolsOfText uri text).imports b.body st = visitAll imports' b.body st

theorem qualify_ofList_congr {items items' : List (String × String)} {name : String}
    (h : items.filter (Imports.spelled (Imports.splitFirst name).1)
      = items'.filter (Imports.spelled (Imports.splitFirst name).1)) (scope : Option String) :
    (Imports.ofList items).qualify scope name = (Imports.ofList items').qualify scope name := by
  unfold Imports.qualify
  rw [Imports.find?_ofList_congr h]

/-- **When the analysis of a text goes block by block.** -/
theorem imports_by_block (uri text : String) : ImportsByBlock uri text where
  blockwise h := by
    rw [blocksOf, List.forall_mem_cons] at h
    obtain ⟨htop, hinner⟩ := h
    have hvisit : visitAll (symbolsOfText uri text).imports (Php.parseFile text.toList) {}
        = visitBlockwiseAll (.ofList (importsIn (Php.parseFile text.toList)))
            (Php.parseFile text.toList) {} :=
      visitAll_eq_visitBlockwiseAll _ htop hinner
    exact congrArg State.records hvisit
  kept b _ r _ h := by
    have htable : (symbolsOfText uri text).imports
        = .ofList (importsWithin (Php.parseFile text.toList)) := imports_ofStatements ..
    rw [htable]
    exact qualify_ofList_congr h r.scope
  unaffected b _ imports' st hscope h := by
    rw [← hscope] at h
    exact visitAll_congr b.body h

/-- Two blocks that keep to their own imports. -/
theorem imports_by_block_apart :
    let text := "<?php namespace A \x7b use Lib\\Foo; new Foo; \x7d namespace B \x7b new Bar; \x7d"
    (Document.ofText "file:///t.php" text).analysis = ofBlocks (Php.parseFile text.toList) ∧
      (Document.ofText "file:///t.php" text).analysis.typed.toList.map TypedExpr.types
        = [["\\Lib\\Foo"], ["\\B\\Bar"]] := by
  intro text
  obtain ⟨hmeaning, htyped⟩ : (∀ b ∈ blocksOf (Php.parseFile text.toList),
        SameMeaning (symbolsOfText "file:///t.php" text).imports b.imports b.refs) ∧
      (Document.ofText "file:///t.php" text).analysis.typed.toList.map TypedExpr.types
        = [["\\Lib\\Foo"], ["\\B\\Bar"]] := by
    decide +kernel
  exact ⟨(imports_by_block "file:///t.php" text).blockwise hmeaning, htyped⟩

/-- **An import of another block is taken for one of its own**: what a name stands for in one block
depends on whether another block imports it. -/
theorem import_of_another_block :
    let text := "<?php namespace A \x7b use Lib\\Foo; \x7d namespace B \x7b new Foo; \x7d"
    let without := "<?php namespace A \x7b              \x7d namespace B \x7b new Foo; \x7d"
    (Document.ofText "file:///t.php" text).analysis.typed.toList = [⟨⟨49, 56⟩, ["\\Lib\\Foo"]⟩] ∧
      (ofBlocks (Php.parseFile text.toList)).typed.toList = [⟨⟨49, 56⟩, ["\\B\\Foo"]⟩] ∧
      (Document.ofText "file:///t.php" without).analysis.typed.toList
        = [⟨⟨49, 56⟩, ["\\B\\Foo"]⟩] := by
  decide +kernel

end Analysis

end MockLens
