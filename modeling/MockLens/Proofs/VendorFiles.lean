/-
**Vendor files: what a scan finds among third-party packages.**

The directory of third-party packages is walked a second time, without the rules of repositories and
without the rules of the directories above it (`MockLens/Workspace.lean`).  So no `.gitignore`, no
`.git/info/exclude` and nothing above that directory can hide a file in it.  The rules of `.ignore`
files are of another kind, and the second walk keeps them: a file is found by it exactly if no
directory on the way is excluded by its name and no `.ignore` file in the directory of packages, or
on the way from there, leaves out an entry of the way.  Both walks are put together in the order of
paths, in which equal paths stand side by side, so each is listed once.

Main definitions:

* `FileTree.HasFile` — a file below a directory, with what holds of the directories on the way;
* `Ignore.fileVerdict` — what `.ignore` files say of an entry;
* `Workspace.Spared` — a file that no excluded name and no `.ignore` file hides;
* `Workspace.projectFiles` — what the first walk finds;
* `Workspace.VendorListed` — what is listed of a project with a directory of packages.

Main results:

* `Workspace.mem_walk_iff` — the walk without repositories finds the files that are spared;
* `Workspace.pairwise_inOrder`, `Workspace.mem_inOrder_iff` — no path is listed twice or lost;
* `Workspace.vendor_listed` — **what is listed**, in every tree and for all excluded names;
* `Workspace.ignored_package_not_listed` — a package that an `.ignore` file hides.
-/
import MockLens.Workspace
import Mathlib.Data.List.Lex
import Mathlib.Data.String.Basic
import Mathlib.Order.WithBot

set_option autoImplicit false

namespace MockLens

/-! ### The order of paths -/

namespace Path

/-- The path of a file, by the names on the way from `p`. -/
def below (p : Path) (names : List String) : Path := names.foldl Path.join p

/-- The step to the parent comes before all others. -/
def Step.rank : Step → WithBot String
  | up => ⊥
  | into name => name

theorem Step.rank_injective : Function.Injective Step.rank := by
  intro a b h
  cases a <;> cases b <;> simp_all [rank]

theorem Step.before_iff {a b : Step} : a.before b = true ↔ a.rank < b.rank := by
  cases a <;> cases b <;> simp [before, rank]

/-- The order of paths is the order of the lists of their steps. -/
theorem stepsBefore_iff (as bs : List Step) :
    stepsBefore as bs = true ↔ as.map Step.rank < bs.map Step.rank := by
  induction as generalizing bs with
  | nil =>
      cases bs with
      | nil => simp [stepsBefore]
      | cons b bs => simp [stepsBefore]
  | cons a as ih =>
      cases bs with
      | nil => simp [stepsBefore]
      | cons b bs =>
          rw [stepsBefore, List.map_cons, List.map_cons, List.cons_lt_cons_iff, Bool.or_eq_true,
            Bool.and_eq_true, Step.before_iff, ih, beq_iff_eq, Step.rank_injective.eq_iff]

theorem not_stepsBefore_iff (as bs : List Step) :
    (!stepsBefore bs as) = true ↔ as.map Step.rank ≤ bs.map Step.rank := by
  rw [Bool.not_eq_true', ← Bool.not_eq_true, stepsBefore_iff, not_lt]

end Path

/-! ### Each path once -/

namespace Workspace

section Order

/-- The files of a list stand in the order of their paths, with these paths. -/
structure Sorted (files : List (List Path.Step × SourceFile)) : Prop where
  steps : ∀ f ∈ files, f.1 = f.2.1.steps
  order : files.Pairwise fun a b => a.1.map Path.Step.rank ≤ b.1.map Path.Step.rank

theorem Sorted.sublist {files others : List (List Path.Step × SourceFile)} (h : Sorted files)
    (hsub : others.Sublist files) : Sorted others :=
  ⟨fun f hf => h.steps f (hsub.subset hf), h.order.sublist hsub⟩

/-- Dropping what is repeated loses no path. -/
theorem mem_dropRepeated_iff {files : List (List Path.Step × SourceFile)} (h : Sorted files)
    {steps : List Path.Step} :
    steps ∈ (dropRepeated files).map (fun f => f.1.steps) ↔ steps ∈ files.map Prod.fst := by
  fun_induction dropRepeated files with
  | case1 a b rest hsame ih =>
      have hsub : (a :: rest).Sublist (a :: b :: rest) :=
        (List.sublist_cons_self b rest).cons_cons a
      rw [ih (h.sublist hsub)]
      simp only [beq_iff_eq] at hsame
      simp [hsame]
  | case2 a b rest _ ih =>
      have hrest := ih (h.sublist (List.sublist_cons_self a _))
      rw [List.map_cons, List.mem_cons, hrest, ← h.steps a List.mem_cons_self]
      exact List.mem_cons.symm
  | case3 a => simp [h.steps a]
  | case4 => simp

/-- What is left has no path twice. -/
theorem pairwise_dropRepeated {files : List (List Path.Step × SourceFile)} (h : Sorted files) :
    ((dropRepeated files).map fun f => f.1.steps).Pairwise fun a b =>
      a.map Path.Step.rank < b.map Path.Step.rank := by
  fun_induction dropRepeated files with
  | case1 a b rest hsame ih =>
      exact ih (h.sublist ((List.sublist_cons_self b rest).cons_cons a))
  | case2 a b rest hdiffers ih =>
      have hrest := h.sublist (List.sublist_cons_self a _)
      rw [List.map_cons, List.pairwise_cons]
      refine ⟨fun steps hsteps => ?_, ih hrest⟩
      obtain ⟨horder, hbehind⟩ := List.pairwise_cons.1 h.order
      rw [mem_dropRepeated_iff hrest] at hsteps
      obtain ⟨f, hf, rfl⟩ := List.mem_map.1 hsteps
      rw [← h.steps a List.mem_cons_self]
      -- the path of `a` differs from the next one, and no later one comes before that
      have hnext : a.1.map Path.Step.rank < b.1.map Path.Step.rank := by
        refine lt_of_le_of_ne (horder b List.mem_cons_self) fun hsame => hdiffers ?_
        rw [beq_iff_eq]
        exact Path.Step.rank_injective.list_map hsame
      rcases List.mem_cons.1 hf with rfl | hf
      · exact hnext
      · exact hnext.trans_le ((List.pairwise_cons.1 hbehind).1 f hf)
  | case3 a => simp
  | case4 => exact .nil

variable (files : List SourceFile)

theorem sorted_mergeSort :
    Sorted
      ((files.map fun f => (f.1.steps, f)).mergeSort fun a b => !Path.stepsBefore b.1 a.1) where
  steps f hf := by
    obtain ⟨g, -, rfl⟩ := List.mem_map.1 (List.mem_mergeSort.1 hf)
    rfl
  order := by
    refine (List.pairwise_mergeSort ?_ ?_ _).imp fun h => (Path.not_stepsBefore_iff _ _).1 h
    · intro a b c hab hbc
      rw [Path.not_stepsBefore_iff] at hab hbc ⊢
      exact hab.trans hbc
    · intro a b
      rw [Bool.or_eq_true, Path.not_stepsBefore_iff, Path.not_stepsBefore_iff]
      exact le_total _ _

/-- No path is lost. -/
theorem mem_inOrder_iff {steps : List Path.Step} :
    steps ∈ (inOrder files).map (fun f => f.1.steps) ↔ steps ∈ files.map fun f => f.1.steps := by
  rw [inOrder, mem_dropRepeated_iff (sorted_mergeSort files), List.mem_map, List.mem_map]
  simp only [List.mem_mergeSort, List.mem_map, exists_exists_and_eq_and]

/-- The paths are listed in order, each once. -/
theorem pairwise_inOrder :
    ((inOrder files).map fun f => f.1.steps).Pairwise fun a b =>
      a.map Path.Step.rank < b.map Path.Step.rank :=
  pairwise_dropRepeated (sorted_mergeSort files)

end Order

end Workspace

/-! ### Files below a directory -/

/-- A file at the end of a way of names, all directories on the way being as `P` says. -/
inductive FileTree.HasFile (P : List (String × FileTree) → Prop) :
    FileTree → List String → FileContents → Prop
  | here {contents : FileContents} : HasFile P (.file contents) [] contents
  | entry {entries : List (String × FileTree)} {name : String} {tree : FileTree}
      {names : List String} {contents : FileContents} (hmem : (name, tree) ∈ entries)
      (hentries : P entries) (hbelow : HasFile P tree names contents) :
      HasFile P (.directory entries) (name :: names) contents

namespace Ignore

/-- The rules of the `.ignore` file of a directory, and no others. -/
def Layer.ofIgnoreFile (entries : List (String × FileTree)) : Layer :=
  { ignoreRules := rulesIn entries ".ignore" }

/-- What the `.ignore` files of the directories around an entry say of it: the nearest file that has
a rule for it decides. -/
def fileVerdict (layers : List Layer) (name : String) (isDirectory : Bool) : Option Bool :=
  layers.findSome? fun l => verdict l.ignoreRules isDirectory (l.pathTo name)

theorem ofEntries_false (entries : List (String × FileTree)) :
    Layer.ofEntries false entries = Layer.ofIgnoreFile entries := rfl

theorem insideRepository_eq_nil {layers : List Layer} (h : ∀ l ∈ layers, l.isRepository = false) :
    insideRepository layers = [] := by
  induction layers with
  | nil => rfl
  | cons l ls ih =>
      obtain ⟨hl, hls⟩ := List.forall_mem_cons.1 h
      simp [insideRepository, hl, ih hls]

/-- Outside of repositories only `.ignore` files count. -/
theorem leavesOut_iff {layers : List Layer} (h : ∀ l ∈ layers, l.isRepository = false)
    {name : String} {isDirectory : Bool} :
    leavesOut layers name isDirectory = true ↔ fileVerdict layers name isDirectory = some true := by
  rw [leavesOut, insideRepository_eq_nil h]
  show (Option.or (fileVerdict layers name isDirectory) _).getD false = true ↔ _
  cases fileVerdict layers name isDirectory <;> simp

/-- Without rules nothing is said. -/
theorem fileVerdict_eq_none {layers : List Layer} (h : ∀ l ∈ layers, l.ignoreRules = [])
    (name : String) (isDirectory : Bool) : fileVerdict layers name isDirectory = none := by
  rw [fileVerdict, List.findSome?_eq_none_iff]
  intro l hl
  rw [h l hl]
  rfl

end Ignore

namespace Workspace

open Ignore (Layer)

/-- A file at the end of a way of names that nothing hides: no directory on the way has an excluded
name, and no `.ignore` file around an entry of the way leaves it out. -/
inductive Spared (exclude : List String) :
    List Layer → FileTree → List String → FileContents → Prop
  | here {layers : List Layer} {contents : FileContents} :
      Spared exclude layers (.file contents) [] contents
  | entry {layers : List Layer} {entries : List (String × FileTree)} {name : String}
      {tree : FileTree} {names : List String} {contents : FileContents}
      (hmem : (name, tree) ∈ entries)
      (hrules : Ignore.fileVerdict (Layer.ofIgnoreFile entries :: layers) name tree.isDirectory
        ≠ some true)
      (hname : tree.isDirectory = true → name ∉ exclude)
      (hbelow : Spared exclude ((Layer.ofIgnoreFile entries :: layers).map (Layer.enter name)) tree
        names contents) :
      Spared exclude layers (.directory entries) (name :: names) contents

/-- The name of a source file. -/
def IsSource (path : Path) : Prop := path.fileName.any (Path.nameHasExtension "php") = true

instance (path : Path) : Decidable (IsSource path) := inferInstanceAs (Decidable (_ = true))

theorem mem_sourceFile_iff {path : Path} {contents : FileContents} {f : SourceFile} :
    f ∈ sourceFile path contents ↔ f = (path, contents) ∧ IsSource path := by
  unfold sourceFile IsSource
  split <;> simp_all

mutual

/-- **The walk without repositories finds the source files that are spared.** -/
theorem mem_walk_iff {exclude : List String} {f : SourceFile} :
    ∀ (tree : FileTree) (layers : List Layer) (path : Path),
      (∀ l ∈ layers, l.isRepository = false) →
        (f ∈ walk false exclude layers path tree ↔ ∃ names, Spared exclude layers tree names f.2 ∧
          f.1 = path.below names ∧ IsSource f.1)
  | .file contents, layers, path, _ => by
      rw [walk, mem_sourceFile_iff]
      constructor
      · rintro ⟨rfl, hsource⟩
        exact ⟨[], .here, rfl, hsource⟩
      · rintro ⟨names, hspared, hpath, hsource⟩
        cases hspared
        exact ⟨Prod.ext hpath rfl, by rwa [hpath] at hsource⟩
  | .directory entries, layers, path, h => by
      have hlayers : ∀ l ∈ Layer.ofIgnoreFile entries :: layers, l.isRepository = false :=
        List.forall_mem_cons.2 ⟨rfl, h⟩
      rw [walk, Ignore.ofEntries_false, mem_walkEntries_iff entries _ path hlayers]
      constructor
      · rintro ⟨name, tree, hmem, hrules, hname, names, hspared, hpath, hsource⟩
        exact ⟨name :: names, .entry hmem hrules hname hspared, hpath, hsource⟩
      · rintro ⟨names, hspared, hpath, hsource⟩
        cases hspared with
        | entry hmem hrules hname hbelow =>
            exact ⟨_, _, hmem, hrules, hname, _, hbelow, hpath, hsource⟩

/-- The walk of several entries finds what is spared in one of them. -/
theorem mem_walkEntries_iff {exclude : List String} {f : SourceFile} :
    ∀ (entries : List (String × FileTree)) (layers : List Layer) (path : Path),
      (∀ l ∈ layers, l.isRepository = false) →
        (f ∈ walkEntries false exclude layers path entries ↔ ∃ name tree, (name, tree) ∈ entries ∧
          Ignore.fileVerdict layers name tree.isDirectory ≠ some true ∧
          (tree.isDirectory = true → name ∉ exclude) ∧
          ∃ names, Spared exclude (layers.map (Layer.enter name)) tree names f.2 ∧
            f.1 = (path.join name).below names ∧ IsSource f.1)
  | [], layers, path, _ => by simp [walkEntries]
  | (name, tree) :: rest, layers, path, h => by
      have henter : ∀ l ∈ layers.map (Layer.enter name), l.isRepository = false := by
        intro l hl
        obtain ⟨outer, houter, rfl⟩ := List.mem_map.1 hl
        exact h outer houter
      have hbelow := @mem_walk_iff exclude f tree _ (path.join name) henter
      have hhides : (Ignore.leavesOut layers name tree.isDirectory ||
          (tree.isDirectory && exclude.contains name)) = false ↔
          Ignore.fileVerdict layers name tree.isDirectory ≠ some true ∧
            (tree.isDirectory = true → name ∉ exclude) := by
        rw [Bool.or_eq_false_iff, ← Bool.not_eq_true, Ignore.leavesOut_iff h, ← Bool.not_eq_true,
          Bool.and_eq_true, not_and, List.contains_iff_mem]
      have hfirst : f ∈ (if (Ignore.leavesOut layers name tree.isDirectory ||
            (tree.isDirectory && exclude.contains name)) = true then []
          else walk false exclude (layers.map (Layer.enter name)) (path.join name) tree) ↔
          Ignore.fileVerdict layers name tree.isDirectory ≠ some true ∧
            (tree.isDirectory = true → name ∉ exclude) ∧
            ∃ names, Spared exclude (layers.map (Layer.enter name)) tree names f.2 ∧
              f.1 = (path.join name).below names ∧ IsSource f.1 := by
        rw [← and_assoc, ← hhides, ← hbelow]
        split
        · rename_i hhidden
          refine iff_of_false List.not_mem_nil fun hmem => ?_
          rw [hhidden] at hmem
          cases hmem.1
        · rename_i hspared
          exact ⟨fun hmem => ⟨Bool.eq_false_of_not_eq_true hspared, hmem⟩, And.right⟩
      rw [walkEntries, List.mem_append, hfirst, mem_walkEntries_iff rest layers path h]
      simp only [List.mem_cons, Prod.mk.injEq, or_and_right, exists_or, and_assoc]
      simp only [exists_and_left, exists_eq_left]

end

/-- The paths that are found by the walk without repositories. -/
theorem mem_map_steps_walk_iff {exclude : List String} {tree : FileTree} {path : Path}
    {steps : List Path.Step} :
    steps ∈ (walk false exclude [] path tree).map (fun f => f.1.steps) ↔
      ∃ names contents, Spared exclude [] tree names contents ∧ IsSource (path.below names) ∧
        (path.below names).steps = steps := by
  have hfound (f : SourceFile) := @mem_walk_iff exclude f tree [] path (by simp)
  rw [List.mem_map]
  constructor
  · rintro ⟨⟨found, contents⟩, hfile, rfl⟩
    obtain ⟨names, hspared, rfl, hsource⟩ := (hfound _).1 hfile
    exact ⟨names, contents, hspared, hsource, rfl⟩
  · rintro ⟨names, contents, hspared, hsource, rfl⟩
    exact ⟨(_, contents), (hfound _).2 ⟨names, hspared, rfl, hsource⟩, rfl⟩

/-! ### Both walks -/

/-- What the walk of the project itself finds, with the rules of its repository. -/
def projectFiles (disk : FileTree) (root : Path) (exclude : List String) (tree : FileTree) :
    List SourceFile :=
  walk true exclude (layersAbove [] disk root.resolved.steps) root tree

/-- What is listed of a project with the entries of its directory of packages: the files of the
project as `projectFiles`, and those of the packages. -/
structure VendorListed (vendor : Path) (exclude : List String) (entries : List (String × FileTree))
    (project files : List SourceFile) : Prop where
  /-- No path is listed twice. -/
  once : (files.map fun f => f.1.steps).Nodup
  /-- Besides the files of the project those source files of the packages are listed that no
  excluded name and no `.ignore` file in the directory of packages hides. -/
  listed_iff : ∀ steps, steps ∈ files.map (fun f => f.1.steps) ↔
    (∃ names contents, Spared exclude [] (.directory entries) names contents ∧
      IsSource (vendor.below names) ∧ (vendor.below names).steps = steps) ∨
    steps ∈ project.map fun f => f.1.steps
  /-- So a source file is listed if no directory on the way is excluded by its name and none has an
  `.ignore` file with a rule. -/
  listed : ∀ names contents,
    FileTree.HasFile (fun es => Ignore.rulesIn es ".ignore" = []) (.directory entries) names
      contents →
    (∀ name ∈ names.dropLast, name ∉ exclude) → IsSource (vendor.below names) →
      (vendor.below names).steps ∈ files.map fun f => f.1.steps

/-- Where no `.ignore` file has a rule, nothing but an excluded name hides a file. -/
theorem spared_of_hasFile {exclude : List String} {layers : List Layer} {tree : FileTree}
    {names : List String} {contents : FileContents}
    (h : FileTree.HasFile (fun es => Ignore.rulesIn es ".ignore" = []) tree names contents)
    (hlayers : ∀ l ∈ layers, l.ignoreRules = [])
    (hnames : ∀ name ∈ names.dropLast, name ∉ exclude) :
    Spared exclude layers tree names contents := by
  induction h generalizing layers with
  | here => exact .here
  | @entry entries name tree names contents hmem hrules hbelow ih =>
      have hall : ∀ l ∈ Layer.ofIgnoreFile entries :: layers, l.ignoreRules = [] :=
        List.forall_mem_cons.2 ⟨hrules, hlayers⟩
      refine .entry hmem ?_ (fun hdirectory => ?_) (ih ?_ ?_)
      · simp [Ignore.fileVerdict_eq_none hall]
      · -- a directory has something below it, so its name is not the last
        cases hbelow with
        | here => cases hdirectory
        | entry _ _ _ => exact hnames name (by simp)
      · intro l hl
        obtain ⟨outer, houter, rfl⟩ := List.mem_map.1 hl
        exact hall outer houter
      · intro other hother
        refine hnames other ?_
        cases names with
        | nil => cases hother
        | cons second others => exact List.mem_cons_of_mem _ hother

/-- **What is listed**, in every tree and for all excluded names, if the project and its directory
of packages are there and the name of the latter is not excluded. -/
theorem vendor_listed (disk : FileTree) (root : Path) (exclude : List String) (tree : FileTree)
    (entries : List (String × FileTree)) (hroot : disk.find root = .ok tree)
    (hvendor : disk.find (vendorPath disk root) = .ok (.directory entries))
    (hname : ∀ name, (vendorPath disk root).fileName = some name → name ∉ exclude) :
    ∃ files, sourceFiles disk root exclude = .ok files ∧
      VendorListed (vendorPath disk root) exclude entries
        (projectFiles disk root exclude tree) files := by
  have hexclude : (vendorPath disk root).fileName.any exclude.contains = false := by
    cases hfile : (vendorPath disk root).fileName with
    | none => rfl
    | some name => simpa using hname name hfile
  have hvendorFiles : vendorFiles disk root exclude
      = walk false exclude [] (vendorPath disk root) (.directory entries) := by
    simp [vendorFiles, hvendor, hexclude]
  have hlisted : ∀ steps, steps ∈ (inOrder (projectFiles disk root exclude tree
        ++ walk false exclude [] (vendorPath disk root) (.directory entries))).map
          (fun f => f.1.steps) ↔
      (∃ names contents, Spared exclude [] (.directory entries) names contents ∧
        IsSource ((vendorPath disk root).below names) ∧
          ((vendorPath disk root).below names).steps = steps) ∨
      steps ∈ (projectFiles disk root exclude tree).map fun f => f.1.steps := by
    intro steps
    rw [mem_inOrder_iff, List.map_append, List.mem_append, or_comm, mem_map_steps_walk_iff]
  refine ⟨_, ?_, ?_, hlisted, ?_⟩
  · rw [sourceFiles, hroot, hvendorFiles]
    rfl
  · exact (pairwise_inOrder _).imp fun hlt hsame => by simp [hsame] at hlt
  · intro names contents hfile hnames hsource
    exact (hlisted _).2
      (.inl ⟨names, contents, spared_of_hasFile hfile (by simp) hnames, hsource, rfl⟩)

/-- A package that the rules of the repository hide, above the directory of packages and in it. -/
theorem vendor_listed_beside_git_rules :
    let file (text : String) : FileTree := .file (.text text)
    let entries := [(".gitignore", file "lib\n"), ("lib", .directory [("Lib.php", file "<?php")])]
    let project : FileTree :=
      .directory [(".git", .directory []), (".gitignore", file "vendor\n"),
        ("vendor", .directory entries)]
    let disk : FileTree := .directory [("p", project)]
    ∃ files, sourceFiles disk ⟨"/p"⟩ ["node_modules"] = .ok files ∧
      VendorListed ⟨"/p/vendor"⟩ ["node_modules"] entries
        (projectFiles disk ⟨"/p"⟩ ["node_modules"] project) files ∧
      Path.steps ⟨"/p/vendor/lib/Lib.php"⟩ ∈ files.map fun f => f.1.steps := by
  intro file entries project disk
  have hvendor : vendorPath disk ⟨"/p"⟩ = ⟨"/p/vendor"⟩ := by decide +kernel
  have hroot : disk.find ⟨"/p"⟩ = .ok project := by rfl
  have hfind : disk.find (vendorPath disk ⟨"/p"⟩) = .ok (.directory entries) := by
    rw [hvendor]
    rfl
  obtain ⟨files, hfiles, hlisted⟩ :=
    vendor_listed disk ⟨"/p"⟩ ["node_modules"] project entries hroot
    hfind (by rw [hvendor]; decide +kernel)
  rw [hvendor] at hlisted
  refine ⟨files, hfiles, hlisted, ?_⟩
  have hfile : FileTree.HasFile (fun es => Ignore.rulesIn es ".ignore" = []) (.directory entries)
      ["lib", "Lib.php"] (.text "<?php") :=
    .entry (List.mem_cons_of_mem _ List.mem_cons_self) rfl (.entry List.mem_cons_self rfl .here)
  exact hlisted.listed _ _ hfile (by decide) (by decide +kernel)

/-- **A package that an `.ignore` file hides** is not listed, though the directory of packages is
walked without the rules of repositories. -/
theorem ignored_package_not_listed :
    let file (text : String) : FileTree := .file (.text text)
    let entries := [(".ignore", file "lib/\n"), ("lib", .directory [("Lib.php", file "<?php")])]
    let disk : FileTree := .directory [("p", .directory [("vendor", .directory entries)])]
    vendorPath disk ⟨"/p"⟩ = ⟨"/p/vendor"⟩ ∧
      FileTree.HasFile (fun _ => True) (.directory entries) ["lib", "Lib.php"] (.text "<?php") ∧
      sourceFiles disk ⟨"/p"⟩ [] = .ok [] := by
  intro file entries disk
  have hwalks : (projectFiles disk ⟨"/p"⟩ [] (.directory [("vendor", .directory entries)])
      ++ vendorFiles disk ⟨"/p"⟩ []) = [] := by decide +kernel
  refine ⟨by decide +kernel, ?_, ?_⟩
  · exact .entry (List.mem_cons_of_mem _ List.mem_cons_self) trivial
      (.entry List.mem_cons_self trivial .here)
  · show Except.ok (inOrder (projectFiles disk ⟨"/p"⟩ [] _ ++ vendorFiles disk ⟨"/p"⟩ [])) = _
    rw [hwalks]
    simp [inOrder, dropRepeated]

end Workspace

end MockLens
