/-
**The entries of a file: opened in the editor and found by the scan.**

The index of a session is keyed by the texts of URIs.  A document is entered under the URI the editor
sends, the files of a scan under the URIs of their paths, and a scan leaves out a file only if its
own URI is that of an open document.  A file that is open under another of its URIs therefore has
two entries: the declarations of the editor's text, and beside them those of the file on disk.

Whether the document is opened before or after the scan makes no difference; which URIs of a file
are affected is told by `MockLens/Proofs/FileUris.lean`.

Main definitions:

* `NamesFile` — a URI of the file at a place;
* `Session.inEitherOrder` — a document is opened and the workspace scanned, in either order;
* `Index.HeldOnce` — a file has one entry in the index;
* `EntriesOf` — the entries of a file that was opened and scanned.

Main results:

* `Workspace.found_eq_some_iff` — what a scan finds for a URI;
* `Session.files_inEitherOrder` — the entry under a URI that was new before;
* `Session.entries_of_opened_file` — **the entries of a file**, and when there is only one;
* `Session.file_held_twice` — a file with two.
-/
import MockLens.Proofs.FileUris
import MockLens.Proofs.ScanBesideEdits
import MockLens.Proofs.VendorFiles
import Mathlib.Data.List.Nodup

set_option autoImplicit false

namespace MockLens

/-! ### What a scan finds -/

namespace Index

theorem mem_of_foldl_put {entries : List (String × List Declaration)} {known : Account}
    {uri : String} {ds : List Declaration} (h : entries.foldl Account.put known uri = some ds) :
    (uri, ds) ∈ entries ∨ known uri = some ds := by
  induction entries generalizing known with
  | nil => exact .inr h
  | cons e entries ih =>
      rcases ih h with hmem | hput
      · exact .inl (List.mem_cons_of_mem _ hmem)
      · by_cases hu : uri = e.1
        · have hds : e.2 = ds := by simpa [Account.put, hu] using hput
          exact .inl (by simp [hu, ← hds])
        · exact .inr (by simpa [Account.put, hu] using hput)

theorem isSome_foldl_put {entries : List (String × List Declaration)} {known : Account}
    {uri : String}
    (h : (∃ ds, (uri, ds) ∈ entries) ∨ (known uri).isSome = true) :
    (entries.foldl Account.put known uri).isSome = true := by
  induction entries generalizing known with
  | nil => simpa using h
  | cons e entries ih =>
      refine ih ?_
      by_cases hu : uri = e.1
      · exact .inr (by simp [Account.put, hu])
      · rcases h with ⟨ds, hds⟩ | hknown
        · rcases List.mem_cons.1 hds with rfl | hds
          · exact absurd rfl hu
          · exact .inl ⟨ds, hds⟩
        · exact .inr (by simpa [Account.put, hu] using hknown)

/-- A list of files that has one entry for a URI gives that. -/
theorem lastGiven_eq_some_iff {entries : List (String × List Declaration)} {uri : String}
    (hsame : ∀ ds ds', (uri, ds) ∈ entries → (uri, ds') ∈ entries → ds = ds')
    {ds : List Declaration} : lastGiven entries uri = some ds ↔ (uri, ds) ∈ entries := by
  have hgiven {ds : List Declaration} (h : lastGiven entries uri = some ds) :
      (uri, ds) ∈ entries := (mem_of_foldl_put h).resolve_right (by simp)
  refine ⟨hgiven, fun h => ?_⟩
  have hsome : (lastGiven entries uri).isSome = true := isSome_foldl_put (.inl ⟨ds, h⟩)
  obtain ⟨ds', hds'⟩ := Option.isSome_iff_exists.1 hsome
  rw [hds', hsame ds ds' h (hgiven hds')]

end Index

namespace Workspace

theorem nodup_sourceFiles {disk : FileTree} {root : Path} {exclude : List String}
    {files : List SourceFile} (h : sourceFiles disk root exclude = .ok files) :
    (files.map fun f => f.1.steps).Nodup := by
  unfold sourceFiles at h
  split at h
  · cases h
  · cases h
    exact (pairwise_inOrder _).imp fun hlt hsame => by simp [hsame] at hlt

/-- What a scan finds for a URI that tells the steps of its path. -/
theorem found_eq_some_iff {disk : FileTree} {root : Path} {exclude : List String}
    {files : List SourceFile} (h : sourceFiles disk root exclude = .ok files) {uri : String}
    {steps : List Path.Step} (huri : ∀ p, Uri.ofPath p = uri → p.steps = steps)
    {ds : List Declaration} :
    found disk root exclude uri = some ds ↔
      ∃ p content, (p, .text content) ∈ files ∧ Uri.ofPath p = uri ∧
        ds = declarationsOfText uri content := by
  have hmem {ds : List Declaration} : (uri, ds) ∈ files.filterMap scanFile ↔
      ∃ p content, (p, .text content) ∈ files ∧ Uri.ofPath p = uri ∧
        ds = declarationsOfText uri content := by
    rw [List.mem_filterMap]
    constructor
    · rintro ⟨⟨p, contents⟩, hfile, hscan⟩
      cases contents with
      | text content =>
          obtain ⟨rfl, rfl⟩ := Prod.mk.inj (Option.some.inj hscan)
          exact ⟨p, content, hfile, rfl, rfl⟩
      | binary _ => cases hscan
    · rintro ⟨p, content, hfile, rfl, rfl⟩
      exact ⟨_, hfile, rfl⟩
  rw [found, scan, h]
  refine Iff.trans (Index.lastGiven_eq_some_iff fun ds ds' hds hds' => ?_) hmem
  obtain ⟨p, content, hfile, hp, rfl⟩ := hmem.1 hds
  obtain ⟨p', content', hfile', hp', rfl⟩ := hmem.1 hds'
  have heq := List.inj_on_of_nodup_map (nodup_sourceFiles h) hfile hfile'
    ((huri p hp).trans (huri p' hp').symm)
  simp only [Prod.mk.injEq, FileContents.text.injEq] at heq
  rw [heq.2]

end Workspace

/-! ### URIs of a file -/

/-- The place of an absolute path: its steps, without those to the parent. -/
def Path.place (p : Path) : List Path.Step := Path.resolveSteps [] p.steps

/-- A URI of the file at a place: the one the scan writes for a path there, or one of the `file`
scheme with a path there, as an editor may send it. -/
inductive NamesFile (place : List Path.Step) : String → Prop
  | written {p : Path} : p.isAbsolute = true → p.place = place → NamesFile place (Uri.ofPath p)
  | sent {s : String} {u : Uri} {q : Path} : Uri.parse? s = some u → u.scheme = "file" →
      u.filePath? = some q → q.place = place → NamesFile place u.text

/-- A URI of a file tells the steps of the paths for which the scan writes it, and they lead to the
file. -/
theorem NamesFile.exists_steps {place : List Path.Step} {uri : String} (h : NamesFile place uri) :
    ∃ steps, Path.resolveSteps [] steps = place ∧
      ∀ p, Uri.ofPath p = uri → p.isAbsolute = true ∧ p.steps = steps := by
  cases h with
  | @written p hp hplace => exact ⟨p.steps, hplace, fun _ => (Uri.ofPath_eq_ofPath_iff hp).1⟩
  | @sent _ _ q hparse hscheme hpath hplace =>
      refine ⟨q.steps, hplace, fun p hp => ?_⟩
      obtain ⟨habsolute, hsteps, -⟩ := (Uri.ofPath_eq_text_iff hparse hscheme hpath p).1 hp
      exact ⟨habsolute, hsteps⟩

theorem NamesFile.place_of_ofPath {place : List Path.Step} {p : Path}
    (h : NamesFile place (Uri.ofPath p)) : p.isAbsolute = true ∧ p.place = place := by
  obtain ⟨steps, hplace, hsteps⟩ := h.exists_steps
  obtain ⟨hp, rfl⟩ := hsteps p rfl
  exact ⟨hp, hplace⟩

/-- A file has one entry in an index: it stands under `uri` and is `ds`. -/
def Index.HeldOnce (ix : Index) (place : List Path.Step) (uri : String)
    (ds : List Declaration) : Prop :=
  ix.files[uri]? = some ds ∧
    ∀ uri', NamesFile place uri' → (ix.files[uri']?).isSome = true → uri' = uri

/-- The entries of the file at the path `q` in an index, where an editor sent `text` for it under
the URI `u` and a scan found `files`. -/
structure EntriesOf (ix : Index) (files : List Workspace.SourceFile) (u : Uri) (q : Path)
    (text : String) : Prop where
  /-- Under the URI of the editor stands its text. -/
  edited : ix.files[u.text]? = some (declarationsOfText u.text text)
  /-- Under any other URI of the file stands what the scan found on disk, if it writes that URI. -/
  others : ∀ uri ds, NamesFile q.place uri → uri ≠ u.text →
    (ix.files[uri]? = some ds ↔
      ∃ p content, (p, .text content) ∈ files ∧ Uri.ofPath p = uri ∧
        ds = declarationsOfText uri content)
  /-- There is one entry, that of the editor, exactly if the scan found no text at another path of
  the file and, if it found one at this path, the URI of the editor is plain. -/
  once_iff : ix.HeldOnce q.place u.text (declarationsOfText u.text text) ↔
    ∀ p content, (p, .text content) ∈ files → p.isAbsolute = true → p.place = q.place →
      p.steps = q.steps ∧ u.IsPlain

/-- A file has one entry where the scan writes no other URI for it than the editor. -/
theorem Index.heldOnce_iff {ix : Index} {files : List Workspace.SourceFile} {sent : String}
    {u : Uri} {q : Path} {ds : List Declaration} (hsent : Uri.parse? sent = some u)
    (hscheme : u.scheme = "file") (hpath : u.filePath? = some q)
    (hedited : ix.files[u.text]? = some ds)
    (hothers : ∀ uri ds, NamesFile q.place uri → uri ≠ u.text →
      (ix.files[uri]? = some ds ↔
        ∃ p content, (p, .text content) ∈ files ∧ Uri.ofPath p = uri ∧
          ds = declarationsOfText uri content)) :
    ix.HeldOnce q.place u.text ds ↔
      ∀ p content, (p, .text content) ∈ files → p.isAbsolute = true → p.place = q.place →
        p.steps = q.steps ∧ u.IsPlain := by
  have hwrites := Uri.ofPath_eq_text_iff hsent hscheme hpath
  constructor
  · rintro ⟨-, honce⟩ p content hfile hp hplace
    -- the URI that the scan writes for such a path has an entry, so it is that of the editor
    have hsame : Uri.ofPath p = u.text := by
      by_contra hne
      refine hne (honce _ (.written hp hplace) ?_)
      rw [(hothers _ _ (.written hp hplace) hne).2 ⟨p, content, hfile, rfl, rfl⟩]
      rfl
    exact ((hwrites p).1 hsame).2
  · intro hplain
    refine ⟨hedited, fun uri huri hsome => ?_⟩
    by_contra hne
    obtain ⟨ds', hds'⟩ := Option.isSome_iff_exists.1 hsome
    obtain ⟨p, content, hfile, rfl, -⟩ := (hothers uri ds' huri hne).1 hds'
    obtain ⟨hp, hplace⟩ := huri.place_of_ofPath
    exact hne ((hwrites p).2 ⟨hp, hplain p content hfile hp hplace⟩)

namespace Session

/-! ### Opening and scanning -/

/-- The session behind a scan of the workspace with nothing in between. -/
def scanned (s : Session) (disk : FileTree) : Session := (s.firstScan disk).1

theorem scanned_eq_endScan (s : Session) (disk : FileTree) :
    s.scanned disk = s.endScan s disk := by
  unfold scanned firstScan endScan
  cases s.beginScan <;> rfl

/-- A document is opened and the workspace scanned: the sessions to which the two orders lead. -/
def inEitherOrder (s : Session) (disk : FileTree) (uri text : String) : List Session :=
  [(s.openDocument uri text).scanned disk, (s.scanned disk).openDocument uri text]

theorem isOpen_openDocument (s : Session) (u text uri : String) :
    (s.openDocument u text).isOpen uri = true ↔ u = uri ∨ s.isOpen uri = true := by
  rw [isOpen, isOpen, Std.TreeMap.contains_eq_isSome_getElem?,
    Std.TreeMap.contains_eq_isSome_getElem?, texts_openDocument]
  split <;> simp_all

/-- The entry under a URI that is new to a session, behind the opening of a document and a scan in
either order. -/
theorem files_inEitherOrder {s final : Session} {disk : FileTree} {root : Path} {u text : String}
    (hroot : s.root = some root) (hfinal : final ∈ s.inEitherOrder disk u text) {uri : String}
    (hindex : s.index.files[uri]? = none) (hopen : s.isOpen uri = false) :
    final.index.files[uri]? = if u = uri then some (declarationsOfText u text)
      else Workspace.found disk root s.config.exclude uri := by
  have hscan : ¬ s.isOpen uri = true := by simp [hopen]
  simp only [inEitherOrder, List.mem_cons, List.not_mem_nil, or_false] at hfinal
  rcases hfinal with rfl | rfl
  · rw [scanned_eq_endScan]
    have hend := files_endScan (s.openDocument u text) (s.openDocument u text) disk uri
    rw [isOpen_openDocument, files_openDocument] at hend
    by_cases hu : u = uri
    · rw [hend.1 (.inl hu), if_pos hu, if_pos hu]
    · rw [hend.2 (by simp [hu, hscan]), if_neg hu, if_neg hu, hindex, Option.or_none]
      rw [show (s.openDocument u text).root = some root from hroot, Option.bind_some]
      rfl
  · rw [files_openDocument, scanned_eq_endScan, (files_endScan s s disk uri).2 hscan, hindex,
      hroot, Option.bind_some, Option.or_none]

/-- **The entries of a file.**  In a session to which the URIs of a file are new, a document is
opened under one of them and the workspace scanned, in either order.  Then the index has the
declarations of the editor under its URI, and those on disk under every other URI that the scan
writes for the file; so the file has one entry exactly if the scan writes no other. -/
theorem entries_of_opened_file {s : Session} {disk : FileTree} {root : Path}
    {files : List Workspace.SourceFile} {sent text : String} {u : Uri} {q : Path}
    (hroot : s.root = some root)
    (hfiles : Workspace.sourceFiles disk root s.config.exclude = .ok files)
    (hsent : Uri.parse? sent = some u) (hscheme : u.scheme = "file")
    (hpath : u.filePath? = some q)
    (hnew : ∀ uri, NamesFile q.place uri → s.index.files[uri]? = none ∧ s.isOpen uri = false) :
    ∀ final ∈ s.inEitherOrder disk u.text text, EntriesOf final.index files u q text := by
  intro final hfinal
  have hnames : NamesFile q.place u.text := .sent hsent hscheme hpath rfl
  have hentry {uri : String} (huri : NamesFile q.place uri) :=
    files_inEitherOrder hroot hfinal (hnew uri huri).1 (hnew uri huri).2
  have hedited : final.index.files[u.text]? = some (declarationsOfText u.text text) :=
    (hentry hnames).trans (if_pos rfl)
  have hothers : ∀ uri ds, NamesFile q.place uri → uri ≠ u.text →
      (final.index.files[uri]? = some ds ↔
        ∃ p content, (p, .text content) ∈ files ∧ Uri.ofPath p = uri ∧
          ds = declarationsOfText uri content) := by
    intro uri ds huri hne
    obtain ⟨steps, -, hsteps⟩ := huri.exists_steps
    rw [hentry huri, if_neg (Ne.symm hne)]
    exact Workspace.found_eq_some_iff hfiles fun p hp => (hsteps p hp).2
  exact ⟨hedited, hothers, Index.heldOnce_iff hsent hscheme hpath hedited hothers⟩

/-- A project of one file, whose name has a character in it that editors encode and the scan does
not. -/
def plusFile : FileTree := .directory [("a+b.php", .file (.text "<?php class Old{}"))]

theorem sourceFiles_plusFile :
    Workspace.sourceFiles plusFile ⟨"/"⟩ ["node_modules"]
      = .ok [(⟨"/a+b.php"⟩, .text "<?php class Old{}")] := by
  have hwalk : Workspace.walk true ["node_modules"] [] ⟨"/"⟩ plusFile
      ++ Workspace.vendorFiles plusFile ⟨"/"⟩ ["node_modules"]
        = [(⟨"/a+b.php"⟩, .text "<?php class Old{}")] := by decide +kernel
  have hlayers : Workspace.layersAbove [] plusFile (Path.resolved ⟨"/"⟩).steps = [] := rfl
  have hfind : plusFile.find ⟨"/"⟩ = .ok plusFile := rfl
  simp [Workspace.sourceFiles, hfind, hlayers, hwalk, Workspace.inOrder, Workspace.dropRepeated]

/-- An editor that writes the name of the file as the scan does. -/
theorem entries_of_opened_file_plain :
    let s : Session := { root := some ⟨"/"⟩ }
    let u : Uri := ⟨"file", "", some "", "", .names ["a+b.php"], none, none⟩
    Uri.parse? "file:///a+b.php" = some u ∧ u.filePath? = some ⟨"/a+b.php"⟩ ∧
      ∀ final ∈ s.inEitherOrder plusFile u.text "<?php class New{}",
        final.index.HeldOnce (Path.place ⟨"/a+b.php"⟩) u.text
          (declarationsOfText u.text "<?php class New{}") := by
  intro s u
  have hsent : Uri.parse? "file:///a+b.php" = some u := by decide +kernel
  have hpath : u.filePath? = some ⟨"/a+b.php"⟩ := by decide +kernel
  have hplain : u.IsPlain := by
    refine ⟨rfl, rfl, [.into "a+b.php"], ?_, by decide +kernel⟩
    simp [Path.Step.IsProper]
  refine ⟨hsent, hpath, fun final hfinal => ?_⟩
  have hentries := entries_of_opened_file (s := s) rfl sourceFiles_plusFile hsent rfl hpath
    (fun _ _ => by simp [s, isOpen]) final hfinal
  refine hentries.once_iff.2 fun p content hfile _ _ => ?_
  simp only [List.mem_singleton, Prod.mk.injEq] at hfile
  exact ⟨by rw [hfile.1], hplain⟩

/-- **A file that is held twice**: the editor encodes the plus sign in its name, and beside the class
in the editor the index keeps the one on disk, in whichever order the document is opened and the
workspace scanned. -/
theorem file_held_twice :
    let s : Session := { root := some ⟨"/"⟩ }
    let uri := "file:///a%2Bb.php"
    Uri.normalize? uri = some uri ∧
      (Uri.parse? uri).bind Uri.filePath? = some ⟨"/a+b.php"⟩ ∧
      ∀ final ∈ s.inEitherOrder plusFile uri "<?php class New{}",
        final.index.files[uri]? = some (declarationsOfText uri "<?php class New{}") ∧
        final.index.files["file:///a+b.php"]?
          = some (declarationsOfText "file:///a+b.php" "<?php class Old{}") := by
  intro s uri
  refine ⟨by decide +kernel, by decide +kernel, fun final hfinal => ?_⟩
  have hentry (other : String) : final.index.files[other]?
      = if uri = other then some (declarationsOfText uri "<?php class New{}")
        else Workspace.found plusFile ⟨"/"⟩ s.config.exclude other :=
    files_inEitherOrder (s := s) rfl hfinal (by simp [s]) (by simp [s, isOpen])
  have hwritten : Uri.ofPath ⟨"/a+b.php"⟩ = "file:///a+b.php" := by decide +kernel
  refine ⟨(hentry uri).trans (if_pos rfl), (hentry _).trans ?_⟩
  rw [if_neg (by decide), Workspace.found, Workspace.scan]
  rw [show s.config.exclude = ["node_modules"] from rfl, sourceFiles_plusFile]
  simp [Except.map, Workspace.scanFile, hwritten, Index.lastGiven, Index.Account.put]

end Session

end MockLens
