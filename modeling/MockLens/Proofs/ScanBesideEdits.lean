/-
**A scan of the workspace beside the edits of open documents.**

The first scan of a session is slow, and the editor goes on while it runs: documents are opened,
changed and closed between its beginning and its end.  The scan leaves out the documents that were
open when it *began*; it writes to the index when it *ends*.  Between the two moments lies a
document that is opened meanwhile: its text was read, and then the scan puts the declarations of
the file on disk in the place of those of the editor.

The proof follows one document through a run.  Each edit keeps the index in step with the open
text of the document, and an edit that hands over a text brings it in step whatever was before; the
end of the scan keeps it in step unless the scan found the file and did not leave it out.

Main definitions:

* `Session.Edit`, `Session.edited` — what an editor tells about documents, and a session after it;
* `Session.scannedBeside` — a session whose scan ran beside edits;
* `Session.InStep` — the index has the declarations of the open text of a document;
* `Workspace.found` — the declarations a scan finds for a document.

Main results:

* `Session.inStep_edited`, `Session.inStep_edited_of_hands` — edits keep a document in step, and
  bring it in step;
* `Session.files_settleScan` — what the end of a scan does to the index;
* `Session.inStep_scannedBeside_iff` — **when an open document keeps the declarations of the
  editor**;
* `Session.scan_overwrites_opened_document` — a document that does not.
-/
import MockLens.Session
import MockLens.Proofs.IndexRuns

set_option autoImplicit false

namespace MockLens

/-! ### What a scan finds -/

/-- The declarations a list of files gives for a URI; of two entries the later counts. -/
def Index.lastGiven (entries : List (String × List Declaration)) (uri : String) :
    Option (List Declaration) :=
  entries.foldl Index.Account.put (fun _ => none) uri

theorem Index.foldl_put_eq (known : Index.Account) (entries : List (String × List Declaration))
    (uri : String) :
    entries.foldl Index.Account.put known uri = (Index.lastGiven entries uri).or (known uri) := by
  have hgen : ∀ known₁ known₂ : Index.Account, known₁ uri = (known₂ uri).or (known uri) →
      entries.foldl Index.Account.put known₁ uri
        = (entries.foldl Index.Account.put known₂ uri).or (known uri) := by
    induction entries with
    | nil => exact fun _ _ h => h
    | cons e es ih =>
        intro known₁ known₂ h
        refine ih _ _ ?_
        by_cases hu : uri = e.1
        · simp [Index.Account.put, hu]
        · simp [Index.Account.put, hu, h]
  exact hgen known (fun _ => none) (by simp)

theorem Index.lastGiven_filter (skip : List String) (entries : List (String × List Declaration))
    (uri : String) :
    Index.lastGiven (entries.filter fun f => !skip.contains f.1) uri
      = if uri ∈ skip then none else Index.lastGiven entries uri := by
  have hgen : ∀ known₁ known₂ : Index.Account,
      known₁ uri = (if uri ∈ skip then none else known₂ uri) →
      (entries.filter fun f => !skip.contains f.1).foldl Index.Account.put known₁ uri
        = if uri ∈ skip then none else entries.foldl Index.Account.put known₂ uri := by
    induction entries with
    | nil => exact fun _ _ h => h
    | cons e es ih =>
        intro known₁ known₂ h
        by_cases hskip : e.1 ∈ skip
        · rw [List.filter_cons_of_neg (by simpa using hskip)]
          refine ih _ _ (h.trans ?_)
          by_cases hu : uri = e.1
          · simp [hu, hskip]
          · simp [Index.Account.put, hu]
        · rw [List.filter_cons_of_pos (by simpa using hskip)]
          refine ih _ _ ?_
          by_cases hu : uri = e.1
          · simp [Index.Account.put, hu, hskip]
          · simp [Index.Account.put, hu, h]
  exact hgen _ _ (by simp)

/-- The declarations a scan of the project at `root` finds for a document; none when it fails. -/
def Workspace.found (disk : FileTree) (root : Path) (exclude : List String) (uri : String) :
    Option (List Declaration) :=
  match Workspace.scan disk root exclude with
  | .ok files => Index.lastGiven files uri
  | .error _ => none

namespace Session

/-! ### Edits -/

/-- What an editor tells about documents. -/
inductive Edit where
  | opened (uri text : String)
  | changed (uri : String) (texts : List String)
  | closed (uri : String)
  deriving DecidableEq, Repr

/-- The session after an edit. -/
def Edit.apply (s : Session) : Edit → Session
  | .opened uri text => s.openDocument uri text
  | .changed uri texts => s.changeDocument uri texts
  | .closed uri => s.closeDocument uri

/-- The session after edits. -/
def edited (s : Session) (edits : List Edit) : Session := edits.foldl Edit.apply s

/-- The edit hands over a text of the document. -/
def Edit.hands (uri : String) : Edit → Bool
  | .opened u _ => u == uri
  | .changed u texts => u == uri && !texts.isEmpty
  | .closed _ => false

/-- The document is open. -/
def isOpen (s : Session) (uri : String) : Bool := s.texts.contains uri

/-- If the document is open, the index has the declarations of its text. -/
def InStep (s : Session) (uri : String) : Prop :=
  ∀ text, s.texts[uri]? = some text → s.index.files[uri]? = some (declarationsOfText uri text)

/-- The session after the end of the scan that began in the session `begun`, if one did. -/
def endScan (s begun : Session) (disk : FileTree) : Session :=
  match begun.beginScan with
  | some scan => (s.settleScan disk scan).1
  | none => s

/-- The session whose scan begins after the edits `before`, ends after the edits `between` and is
followed by the edits `after`. -/
def scannedBeside (s : Session) (disk : FileTree) (before between after : List Edit) : Session :=
  (((s.edited before).edited between).endScan (s.edited before) disk).edited after

theorem texts_openDocument (s : Session) (u text uri : String) :
    (s.openDocument u text).texts[uri]? = if u = uri then some text else s.texts[uri]? := by
  change (s.texts.insert u text)[uri]? = _
  rw [Std.TreeMap.getElem?_insert]
  simp only [Std.LawfulEqCmp.compare_eq_iff_eq]

theorem files_openDocument (s : Session) (u text uri : String) :
    (s.openDocument u text).index.files[uri]?
      = if u = uri then some (declarationsOfText u text) else s.index.files[uri]? := by
  change (s.index.files.insert u (declarationsOfText u text))[uri]? = _
  rw [Std.TreeMap.getElem?_insert]
  simp only [Std.LawfulEqCmp.compare_eq_iff_eq]

theorem texts_closeDocument (s : Session) (u uri : String) :
    (s.closeDocument u).texts[uri]? = if u = uri then none else s.texts[uri]? := by
  change (s.texts.erase u)[uri]? = _
  rw [Std.TreeMap.getElem?_erase]
  simp only [Std.LawfulEqCmp.compare_eq_iff_eq]

/-- A document is in step after it was opened, and stays so when another one is. -/
theorem inStep_openDocument {s : Session} {u uri : String} (text : String)
    (h : u = uri ∨ s.InStep uri) : (s.openDocument u text).InStep uri := by
  intro t ht
  rw [texts_openDocument] at ht
  rw [files_openDocument]
  by_cases hu : u = uri
  · simp_all
  · simp only [hu, if_false, false_or] at ht h ⊢
    exact h t ht

/-- **Every edit keeps a document in step**, and one that hands over its text brings it in step. -/
theorem Edit.inStep_apply {s : Session} {uri : String} (e : Edit)
    (h : e.hands uri = true ∨ s.InStep uri) : (e.apply s).InStep uri := by
  cases e with
  | opened u text => exact inStep_openDocument text (by simpa [hands] using h)
  | changed u texts =>
      cases texts with
      | nil => exact h.resolve_left (by simp [hands])
      | cons text more => exact inStep_openDocument text (by simpa [hands] using h)
  | closed u =>
      have hs : s.InStep uri := h.resolve_left (by simp [hands])
      intro t ht
      rw [apply, texts_closeDocument] at ht
      by_cases hu : u = uri
      · simp [hu] at ht
      · exact hs t (by simpa [hu] using ht)

theorem inStep_edited {s : Session} {uri : String} (h : s.InStep uri) (edits : List Edit) :
    (s.edited edits).InStep uri := by
  unfold edited
  induction edits generalizing s with
  | nil => exact h
  | cons e es ih => exact ih (e.inStep_apply (.inr h))

theorem inStep_edited_of_hands {uri : String} {edits : List Edit}
    (h : edits.any (Edit.hands uri) = true) (s : Session) : (s.edited edits).InStep uri := by
  induction edits generalizing s with
  | nil => simp at h
  | cons e es ih =>
      by_cases he : e.hands uri = true
      · exact inStep_edited (e.inStep_apply (.inl he)) es
      · exact ih (by simpa [he] using h) (e.apply s)

theorem openDocument_of_ne {u uri : String} (hu : u ≠ uri) (s : Session) (text : String) :
    (s.openDocument u text).index.files[uri]? = s.index.files[uri]? ∧
      ∀ t, (s.openDocument u text).texts[uri]? = some t → s.texts[uri]? = some t := by
  rw [files_openDocument, texts_openDocument, if_neg hu, if_neg hu]
  exact ⟨rfl, fun _ h => h⟩

/-- An edit that hands over no text of a document leaves the index as it is there, and a document
that is open after it was open with that text before. -/
theorem Edit.apply_of_not_hands {uri : String} {e : Edit} (h : e.hands uri = false)
    (s : Session) :
    (e.apply s).index.files[uri]? = s.index.files[uri]? ∧
      ∀ t, (e.apply s).texts[uri]? = some t → s.texts[uri]? = some t := by
  cases e with
  | opened u text => exact openDocument_of_ne (by simpa [hands] using h) s text
  | changed u texts =>
      cases texts with
      | nil => exact ⟨rfl, fun _ h => h⟩
      | cons text more => exact openDocument_of_ne (by simpa [hands] using h) s text
  | closed u =>
      refine ⟨rfl, fun t ht => ?_⟩
      rw [apply, texts_closeDocument] at ht
      by_cases hu : u = uri
      · simp [hu] at ht
      · simpa [hu] using ht

theorem edited_of_not_hands {uri : String} {edits : List Edit}
    (h : edits.any (Edit.hands uri) = false) (s : Session) :
    (s.edited edits).index.files[uri]? = s.index.files[uri]? ∧
      ∀ t, (s.edited edits).texts[uri]? = some t → s.texts[uri]? = some t := by
  induction edits generalizing s with
  | nil => exact ⟨rfl, fun _ h => h⟩
  | cons e es ih =>
      obtain ⟨he, hes⟩ : e.hands uri = false ∧ es.any (Edit.hands uri) = false := by
        simpa using h
      obtain ⟨hfiles, htexts⟩ := ih hes (e.apply s)
      obtain ⟨hfiles', htexts'⟩ := Edit.apply_of_not_hands he s
      exact ⟨hfiles.trans hfiles', fun t ht => htexts' t (htexts t ht)⟩

/-- Edits do not change what a scan reads. -/
theorem edited_root_config (s : Session) (edits : List Edit) :
    (s.edited edits).root = s.root ∧ (s.edited edits).config = s.config := by
  unfold edited
  induction edits generalizing s with
  | nil => exact ⟨rfl, rfl⟩
  | cons e es ih =>
      have hstep : (e.apply s).root = s.root ∧ (e.apply s).config = s.config := by
        cases e with
        | opened u text => exact ⟨rfl, rfl⟩
        | changed u texts => cases texts <;> exact ⟨rfl, rfl⟩
        | closed u => exact ⟨rfl, rfl⟩
      exact ⟨(ih (e.apply s)).1.trans hstep.1, (ih (e.apply s)).2.trans hstep.2⟩

/-! ### The end of a scan -/

/-- **What the end of a scan does to the index**: what it found replaces what was there, except for
the documents it leaves out. -/
theorem files_settleScan (s : Session) (disk : FileTree) (scan : Scan) (uri : String) :
    (s.settleScan disk scan).1.index.files[uri]?
      = if uri ∈ scan.skip then s.index.files[uri]?
        else (Workspace.found disk scan.root scan.exclude uri).or s.index.files[uri]? := by
  unfold settleScan finishScan Workspace.indexInto Workspace.found
  cases Workspace.scan disk scan.root scan.exclude with
  | error e => simp [Except.map]
  | ok files =>
      change ((files.filter fun f => !scan.skip.contains f.1).foldl
        (fun files e => files.insert e.1 e.2) s.index.files)[uri]? = _
      rw [Index.files_foldl_insert _ (fun u => s.index.files[u]?) (fun _ => rfl),
        Index.foldl_put_eq, Index.lastGiven_filter]
      by_cases hskip : uri ∈ scan.skip
      · simp [hskip]
      · simp [hskip]

theorem texts_settleScan (s : Session) (disk : FileTree) (scan : Scan) :
    (s.settleScan disk scan).1.texts = s.texts := by
  unfold settleScan finishScan
  cases Workspace.indexInto s.index disk scan.root scan.exclude scan.skip with
  | error e => rfl
  | ok answer => rfl

theorem texts_endScan (s begun : Session) (disk : FileTree) :
    (s.endScan begun disk).texts = s.texts := by
  unfold endScan
  cases begun.beginScan with
  | none => rfl
  | some scan => exact texts_settleScan s disk scan

theorem files_endScan (s begun : Session) (disk : FileTree) (uri : String) :
    (begun.isOpen uri = true → (s.endScan begun disk).index.files[uri]? = s.index.files[uri]?) ∧
      (¬ begun.isOpen uri = true → (s.endScan begun disk).index.files[uri]?
        = (begun.root.bind fun r => Workspace.found disk r begun.config.exclude uri).or
            s.index.files[uri]?) := by
  have hskip : uri ∈ begun.texts.keys ↔ begun.isOpen uri = true := by
    rw [Std.TreeMap.mem_keys, isOpen, Std.TreeMap.mem_iff_contains]
  unfold endScan beginScan
  cases begun.root with
  | none => exact ⟨fun _ => rfl, fun _ => rfl⟩
  | some root =>
      refine ⟨fun h => ?_, fun h => ?_⟩
      · exact (files_settleScan s disk _ uri).trans (if_pos (hskip.2 h))
      · exact (files_settleScan s disk _ uri).trans (if_neg fun hmem => h (hskip.1 hmem))

/-! ### Whole runs -/

/-- **When an open document keeps the declarations of the editor.**  Let the scan of a new session
run beside edits.  A document that is open afterwards has the declarations of its text in the index
exactly when its text was handed over once more after the end of the scan, or it was already open
when the scan began, or the scan found no other declarations for it; and if not, the index has what
the scan found. -/
theorem inStep_scannedBeside_iff (root : Option Path) (config : Config) (ix : Index)
    (disk : FileTree) (before between after : List Edit) (uri text : String)
    (hopen : (scannedBeside ⟨root, config, {}, {}, ix⟩ disk before between after).texts[uri]?
      = some text) :
    let start : Session := ⟨root, config, {}, {}, ix⟩
    let stored := (scannedBeside start disk before between after).index.files[uri]?
    let found := root.bind fun r => Workspace.found disk r config.exclude uri
    let keeps := after.any (Edit.hands uri) = true ∨ (start.edited before).isOpen uri = true ∨
      ∀ ds, found = some ds → ds = declarationsOfText uri text
    (stored = some (declarationsOfText uri text) ↔ keeps) ∧ (¬ keeps → stored = found) := by
  intro start stored found keeps
  have hstart : start.InStep uri := fun t ht => by simp [start] at ht
  have hhalfway : ((start.edited before).edited between).InStep uri :=
    inStep_edited (inStep_edited hstart before) between
  by_cases hafter : after.any (Edit.hands uri) = true
  · have hstored : stored = some (declarationsOfText uri text) :=
      inStep_edited_of_hands hafter _ text hopen
    exact ⟨⟨fun _ => .inl hafter, fun _ => hstored⟩, fun h => absurd (.inl hafter) h⟩
  · -- the text is the one of the end of the scan, and so is the entry of the index
    obtain ⟨hfiles, htexts⟩ := edited_of_not_hands (by simpa using hafter)
      (((start.edited before).edited between).endScan (start.edited before) disk)
    have hstored : stored = _ := hfiles
    have hread : ((start.edited before).edited between).index.files[uri]?
        = some (declarationsOfText uri text) := by
      refine hhalfway text ?_
      rw [← texts_endScan _ (start.edited before) disk]
      exact htexts text hopen
    obtain ⟨hleft, hwritten⟩ :=
      files_endScan ((start.edited before).edited between) (start.edited before) disk uri
    by_cases hbegun : (start.edited before).isOpen uri = true
    · have hkept : stored = some (declarationsOfText uri text) := by
        rw [hstored, hleft hbegun, hread]
      exact ⟨⟨fun _ => .inr (.inl hbegun), fun _ => hkept⟩, fun h => absurd (.inr (.inl hbegun)) h⟩
    · have hvalue : stored = found.or (some (declarationsOfText uri text)) := by
        rw [hstored, hwritten hbegun, hread, (edited_root_config start before).1,
          (edited_root_config start before).2]
      rw [hvalue]
      cases hfound : found with
      | none => exact ⟨⟨fun _ => .inr (.inr (by simp [hfound])), fun _ => rfl⟩,
          fun h => absurd (.inr (.inr (by simp [hfound]))) h⟩
      | some ds =>
          refine ⟨⟨fun h => .inr (.inr fun ds' hds => ?_), fun h => ?_⟩, fun _ => rfl⟩
          · rw [← Option.some_inj, ← hds, hfound]
            exact h
          · rcases h with h | h | h
            · exact absurd h hafter
            · exact absurd h hbegun
            · rw [h ds hfound]
              rfl

/-- A project of one file at the root of the file system. -/
def loneFile : FileTree := .directory [("a.php", .file (.text "<?php class Old{}"))]

/-- A document that was open when the scan began, changed while it ran, and left alone after it. -/
theorem inStep_scannedBeside_changed :
    let s := scannedBeside ⟨some ⟨"/"⟩, {}, {}, {}, {}⟩ loneFile [.opened "file:///a.php" ""]
      [.changed "file:///a.php" ["<?php class New{}"]] []
    s.texts["file:///a.php"]? = some "<?php class New{}" ∧
      s.index.files["file:///a.php"]?
        = some (declarationsOfText "file:///a.php" "<?php class New{}") := by
  intro s
  have hopen : s.texts["file:///a.php"]? = some "<?php class New{}" := by decide +kernel
  exact ⟨hopen, (inStep_scannedBeside_iff _ _ _ _ _ _ _ _ _ hopen).1.2 (.inr (.inl (by decide)))⟩

theorem found_loneFile :
    Workspace.found loneFile ⟨"/"⟩ ["node_modules"] "file:///a.php"
      = some (declarationsOfText "file:///a.php" "<?php class Old{}") := by
  have hwalk : Workspace.walk true ["node_modules"] [] ⟨"/"⟩ loneFile
      ++ Workspace.vendorFiles loneFile ⟨"/"⟩ ["node_modules"]
        = [(⟨"/a.php"⟩, .text "<?php class Old{}")] := by decide +kernel
  have hlayers : Workspace.layersAbove [] loneFile (Path.resolved ⟨"/"⟩).steps = [] := rfl
  have hfind : loneFile.find ⟨"/"⟩ = .ok loneFile := rfl
  have huri : Uri.ofPath ⟨"/a.php"⟩ = "file:///a.php" := by decide +kernel
  have hscan : Workspace.scan loneFile ⟨"/"⟩ ["node_modules"]
      = .ok [("file:///a.php", declarationsOfText "file:///a.php" "<?php class Old{}")] := by
    simp [Workspace.scan, Workspace.sourceFiles, hfind, hlayers, hwalk, Workspace.inOrder,
      Workspace.dropRepeated, Except.map, Workspace.scanFile, huri]
  rw [Workspace.found, hscan]
  simp [Index.lastGiven, Index.Account.put]

/-- **A document that loses the declarations of the editor**: it is opened while the scan runs, and
the end of the scan puts the class of the file on disk in the place of the class in the editor. -/
theorem scan_overwrites_opened_document :
    let s := scannedBeside ⟨some ⟨"/"⟩, {}, {}, {}, {}⟩ loneFile []
      [.opened "file:///a.php" "<?php class New{}"] []
    s.texts["file:///a.php"]? = some "<?php class New{}" ∧
      s.index.files["file:///a.php"]?
        = some (declarationsOfText "file:///a.php" "<?php class Old{}") ∧
      s.index.files["file:///a.php"]?
        ≠ some (declarationsOfText "file:///a.php" "<?php class New{}") := by
  intro s
  let begun : Session := ⟨some ⟨"/"⟩, {}, {}, {}, {}⟩
  let halfway := begun.edited [.opened "file:///a.php" "<?php class New{}"]
  have hs : s = halfway.endScan begun loneFile := rfl
  have hstored : s.index.files["file:///a.php"]?
      = some (declarationsOfText "file:///a.php" "<?php class Old{}") := by
    have hend := (files_endScan halfway begun loneFile "file:///a.php").2 (by decide)
    rw [show begun.root = some ⟨"/"⟩ from rfl, Option.bind_some,
      show begun.config.exclude = ["node_modules"] from rfl, found_loneFile, Option.some_or] at hend
    rw [hs]
    exact hend
  have hopen : s.texts["file:///a.php"]? = some "<?php class New{}" := by
    rw [hs, texts_endScan]
    exact (texts_openDocument begun _ _ _).trans (if_pos rfl)
  refine ⟨hopen, hstored, ?_⟩
  rw [hstored]
  decide +kernel

end Session

end MockLens
