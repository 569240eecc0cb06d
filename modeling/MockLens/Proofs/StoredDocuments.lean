/-
**The documents a session stores, after any run of handlers.**

A session keeps three things about a document in three places: the text that is open, what was read
from it, and its declarations in the index (`MockLens/Session.lean`).  Different handlers write to
different ones of them.  Here one handler runs after the other, in any order and number, and the
three stay together: whatever is open is stored as it was read from that very text, and nothing else
is stored.

A scan leaves out the documents that are open, and an edit leaves alone what is open besides its own
document.  So a scan and the edits next to it may change places, as long as the documents of these
edits are left open: the two orders lead to indexes with the same files, hence with the same answer
to every lookup.

Main definitions:

* `Session.Event`, `Session.after` — what a session is told, and a session after it;
* `Session.Beginning` — the sessions that runs begin with;
* `Session.Consistent` — the stored documents are those of the open texts;
* `Session.SameStore`, `Session.Alike` — sessions that differ in the index alone, or only in the
  way it is built;
* `Index.SameAnswers` — two indexes that no lookup tells apart.

Main results:

* `Index.IsFilled.sameAnswers` — the files of an index decide on all lookups;
* `Session.Consistent.apply` — every event keeps the store consistent;
* `Session.Alike.apply` — no event tells alike sessions apart;
* `Session.alike_scan_edited` — a scan and the edits of documents left open change places;
* `Session.documents_stored` — **the store after any run.**
-/
import MockLens.Proofs.ScanBesideEdits

set_option autoImplicit false

namespace MockLens

/-! ### Indexes with the same files -/

namespace Index

/-- No lookup tells two indexes apart. -/
structure SameAnswers (ix ix' : Index) : Prop where
  classByName : ∀ name, ix.classByName name = ix'.classByName name
  interfacesByName : ∀ name, ix.interfacesByName name = ix'.interfacesByName name
  classLikesAt : ∀ path, ix.classLikesAt path = ix'.classLikesAt path
  methodsOf : ∀ owner, ix.methodsOf owner = ix'.methodsOf owner
  findMethod : ∀ owner name, ix.findMethod owner name = ix'.findMethod owner name
  bySignature : ∀ signature, ix.bySignature signature = ix'.bySignature signature
  catalogue : ∀ kind, ix.catalogue kind = ix'.catalogue kind
  contains : ∀ uri, ix.contains uri = ix'.contains uri
  fileCount : ix.fileCount = ix'.fileCount

/-- **The files of an index decide on all lookups.** -/
theorem IsFilled.sameAnswers {ix ix' : Index} (h : ix.IsFilled) (h' : ix'.IsFilled)
    (hfiles : ∀ uri : String, ix.files[uri]? = ix'.files[uri]?) : ix.SameAnswers ix' := by
  have hequiv : ix.files.Equiv ix'.files := Std.TreeMap.Equiv.of_forall_constGet?_eq hfiles
  have htables : ix.tables = ix'.tables := by
    have hlist : declarationsOf ix.files = declarationsOf ix'.files := by
      rw [declarationsOf, declarationsOf, hequiv.toList_eq]
    rw [h, h', hlist]
  have hpath : ∀ path, ix.classLikesAt path = ix'.classLikesAt path := fun path => by
    rw [classLikesAt, classLikesAt, htables]
  have hmethods : ∀ owner, ix.methodsOf owner = ix'.methodsOf owner := fun owner => by
    rw [methodsOf, methodsOf, htables]
  refine ⟨?_, ?_, hpath, hmethods, ?_, ?_, ?_, ?_, ?_⟩
  · intro name
    simp only [classByName, hpath, htables]
  · intro name
    simp only [interfacesByName, hpath, htables]
  · intro owner name
    rw [findMethod, findMethod, hmethods]
  · intro signature
    simp only [bySignature, hpath, hmethods]
  · intro kind
    cases kind <;> simp only [catalogue, htables]
  · intro uri
    exact hequiv.contains_eq
  · exact hequiv.size_eq

end Index

namespace Session

/-! ### Events -/

/-- What a session is told.  A scan sees the disk as it is then. -/
inductive Event where
  /-- The editor names the project. -/
  | attached (env : Environment) (rootUri : Option Uri)
  /-- The editor is ready, and the first scan is run to its end. -/
  | ready (disk : FileTree)
  | edited (edit : Edit)
  | configured (config : Config)
  /-- The workspace is scanned once more. -/
  | rescanned (disk : FileTree)

/-- The session after an event. -/
def Event.apply (s : Session) : Event → Session
  | .attached env rootUri => s.attach env rootUri
  | .ready disk => (s.firstScan disk).1
  | .edited edit => edit.apply s
  | .configured config => s.setConfig config
  | .rescanned disk =>
    match s.indexWorkspace disk with
    | .ok answer => answer.1
    | .error _ => s

/-- The session after a run of events. -/
def after (s : Session) (events : List Event) : Session := events.foldl Event.apply s

/-- The event is a scan. -/
def Event.isScan : Event → Bool
  | .ready _ => true
  | .rescanned _ => true
  | _ => false

/-- The event hands over a text of the document. -/
def Event.hands (uri : String) : Event → Bool
  | .edited edit => edit.hands uri
  | _ => false

/-- How a session begins: with nothing known, or with the files of a project. -/
inductive Beginning where
  | blank
  | project (env : Environment) (root : Path)

/-- The session a run begins with. -/
def Beginning.session : Beginning → Session
  | .blank => {}
  | .project env root => forWorkspace env root

theorem after_append (s : Session) (events more : List Event) :
    s.after (events ++ more) = (s.after events).after more :=
  List.foldl_append

theorem after_edits (s : Session) (edits : List Edit) :
    s.after (edits.map .edited) = s.edited edits := by
  unfold after edited
  rw [List.foldl_map]
  rfl

/-! ### Scans, all at once -/

theorem firstScan_eq (s : Session) (disk : FileTree) : (s.firstScan disk).1 = s.endScan s disk := by
  unfold firstScan endScan
  cases s.beginScan <;> rfl

/-- A scan that is run to its end is the same for a session whoever asks for it. -/
theorem Event.apply_scan {scan : Event} (h : scan.isScan = true) :
    ∃ disk, ∀ s : Session, scan.apply s = s.endScan s disk := by
  cases scan with
  | ready disk => exact ⟨disk, fun s => firstScan_eq s disk⟩
  | rescanned disk =>
      refine ⟨disk, fun s => ?_⟩
      unfold apply indexWorkspace endScan
      cases s.beginScan with
      | none => rfl
      | some scan =>
          dsimp only
          unfold settleScan
          cases s.finishScan disk scan <;> rfl
  | attached _ _ => cases h
  | edited _ => cases h
  | configured _ => cases h

/-- What an event does: it is a scan, or nothing but the settings or one document is new. -/
theorem Event.apply_cases (e : Event) :
    (∃ disk, ∀ s : Session, e.apply s = s.endScan s disk) ∨
      (∃ env rootUri, e = .attached env rootUri) ∨ (∃ edit, e = .edited edit) ∨
      ∃ config, e = .configured config := by
  cases e with
  | attached env rootUri => exact .inr (.inl ⟨env, rootUri, rfl⟩)
  | ready disk => exact .inl (apply_scan rfl)
  | edited edit => exact .inr (.inr (.inl ⟨edit, rfl⟩))
  | configured config => exact .inr (.inr (.inr ⟨config, rfl⟩))
  | rescanned disk => exact .inl (apply_scan rfl)

/-- A scan writes to the index alone. -/
theorem exists_endScan_eq (s begun : Session) (disk : FileTree) :
    ∃ index : Index, s.endScan begun disk = { s with index := index } ∧
      (s.index.IsFilled → index.IsFilled) := by
  unfold endScan
  cases begun.beginScan with
  | none => exact ⟨s.index, rfl, id⟩
  | some scan =>
      dsimp only
      unfold settleScan finishScan Workspace.indexInto
      cases Workspace.scan disk scan.root scan.exclude with
      | error e => exact ⟨s.index, rfl, id⟩
      | ok files =>
          refine ⟨s.index.extend (files.filter fun f => !scan.skip.contains f.1), rfl, fun _ => ?_⟩
          exact rfl

/-! ### Consistent stores -/

/-- The stored documents are those of the open texts, each as it is read from its text. -/
structure Consistent (s : Session) : Prop where
  documents : ∀ uri, s.documents[uri]? = s.texts[uri]?.map (Document.ofText uri)
  filled : s.index.IsFilled

namespace Consistent

variable {s : Session}

theorem endScan (h : s.Consistent) (begun : Session) (disk : FileTree) :
    (s.endScan begun disk).Consistent := by
  obtain ⟨index, hscan, hfilled⟩ := exists_endScan_eq s begun disk
  rw [hscan]
  exact ⟨h.documents, hfilled h.filled⟩

theorem openDocument (h : s.Consistent) (uri text : String) :
    (s.openDocument uri text).Consistent := by
  refine ⟨fun other => ?_, rfl⟩
  change (s.documents.insert uri (Document.ofText uri text))[other]? = _
  rw [texts_openDocument, Std.TreeMap.getElem?_insert]
  simp only [Std.LawfulEqCmp.compare_eq_iff_eq]
  by_cases hother : uri = other
  · rw [if_pos hother, if_pos hother, hother]
    rfl
  · rw [if_neg hother, if_neg hother]
    exact h.documents other

theorem closeDocument (h : s.Consistent) (uri : String) : (s.closeDocument uri).Consistent := by
  refine ⟨fun other => ?_, h.filled⟩
  change (s.documents.erase uri)[other]? = _
  rw [texts_closeDocument, Std.TreeMap.getElem?_erase]
  simp only [Std.LawfulEqCmp.compare_eq_iff_eq]
  by_cases hother : uri = other
  · rw [if_pos hother, if_pos hother]
    rfl
  · rw [if_neg hother, if_neg hother]
    exact h.documents other

theorem edit (h : s.Consistent) (e : Edit) : (e.apply s).Consistent := by
  cases e with
  | opened uri text => exact h.openDocument uri text
  | changed uri texts =>
      cases texts with
      | nil => exact h
      | cons text more => exact h.openDocument uri text
  | closed uri => exact h.closeDocument uri

/-- **Every event keeps the store consistent.** -/
theorem apply (h : s.Consistent) (e : Event) : (e.apply s).Consistent := by
  rcases e.apply_cases with ⟨disk, hdisk⟩ | ⟨env, rootUri, rfl⟩ | ⟨edit, rfl⟩ | ⟨config, rfl⟩
  · rw [hdisk]
    exact h.endScan s disk
  · exact ⟨h.documents, h.filled⟩
  · exact h.edit edit
  · exact ⟨h.documents, h.filled⟩

theorem after (h : s.Consistent) (events : List Event) : (s.after events).Consistent := by
  unfold Session.after
  induction events generalizing s with
  | nil => exact h
  | cons e events ih => exact ih (h.apply e)

end Consistent

theorem consistent_beginning (start : Beginning) : start.session.Consistent := by
  have hblank : ∀ root config, (⟨root, config, {}, {}, {}⟩ : Session).Consistent := by
    intro root config
    refine ⟨fun uri => ?_, rfl⟩
    simp
  cases start with
  | blank => exact hblank none {}
  | project env root =>
      rw [Beginning.session, forWorkspace, firstScan_eq]
      exact (hblank _ _).endScan _ _

/-! ### Closed documents -/

theorem texts_edit_eq_none {s : Session} {e : Edit} {uri : String} (h : s.texts[uri]? = none)
    (he : e.hands uri = false) : (e.apply s).texts[uri]? = none := by
  by_contra hsome
  obtain ⟨text, htext⟩ := Option.ne_none_iff_exists'.1 hsome
  rw [(Edit.apply_of_not_hands he s).2 text htext] at h
  cases h

/-- A document stays closed until a text of it is handed over. -/
theorem texts_after_eq_none {uri : String} {events : List Event}
    (hevents : ∀ e ∈ events, e.hands uri = false) :
    ∀ {s : Session}, s.texts[uri]? = none → (s.after events).texts[uri]? = none := by
  unfold after
  induction events with
  | nil => exact fun h => h
  | cons e events ih =>
      intro s h
      obtain ⟨he, hevents⟩ := List.forall_mem_cons.1 hevents
      refine ih hevents ?_
      rcases e.apply_cases with ⟨disk, hdisk⟩ | ⟨env, rootUri, rfl⟩ | ⟨edit, rfl⟩ | ⟨config, rfl⟩
      · rw [hdisk, texts_endScan]
        exact h
      · exact h
      · exact texts_edit_eq_none h he
      · exact h

/-- Nothing is answered on a document that is not open. -/
theorem Consistent.answers_nothing {s : Session} (h : s.Consistent) {uri : String}
    (hclosed : s.texts[uri]? = none) :
    s.analysisOf uri = none ∧ ∀ position, s.completion uri position = none ∧
      s.definition uri position = [] ∧ s.hover uri position = none := by
  have hanalysis : s.analysisOf uri = none := by
    rw [analysisOf, h.documents, hclosed]
    rfl
  refine ⟨hanalysis, fun position => ⟨?_, ?_, ?_⟩⟩
  · rw [completion, hclosed]
  · rw [definition, hclosed]
  · rw [hover, hclosed]

/-! ### Alike sessions -/

/-- Two sessions that differ in the index alone. -/
structure SameStore (s s' : Session) : Prop where
  root : s.root = s'.root
  config : s.config = s'.config
  texts : s.texts = s'.texts
  documents : s.documents = s'.documents

/-- Two sessions whose indexes have the same files, and that are the same otherwise. -/
structure Alike (s s' : Session) : Prop extends SameStore s s' where
  files : ∀ uri : String, s.index.files[uri]? = s'.index.files[uri]?

theorem SameStore.endScan (s begun : Session) (disk : FileTree) :
    SameStore (s.endScan begun disk) s := by
  obtain ⟨index, hscan, -⟩ := exists_endScan_eq s begun disk
  rw [hscan]
  exact ⟨rfl, rfl, rfl, rfl⟩

theorem SameStore.symm {s s' : Session} (h : SameStore s s') : SameStore s' s :=
  ⟨h.root.symm, h.config.symm, h.texts.symm, h.documents.symm⟩

theorem SameStore.trans {s s' s'' : Session} (h : SameStore s s') (h' : SameStore s' s'') :
    SameStore s s'' :=
  ⟨h.root.trans h'.root, h.config.trans h'.config, h.texts.trans h'.texts,
    h.documents.trans h'.documents⟩

theorem SameStore.isOpen {s s' : Session} (h : SameStore s s') (uri : String) :
    s.isOpen uri = s'.isOpen uri := by
  rw [Session.isOpen, Session.isOpen, h.texts]

theorem SameStore.openDocument {s s' : Session} (h : SameStore s s') (uri text : String) :
    SameStore (s.openDocument uri text) (s'.openDocument uri text) := by
  refine ⟨h.root, h.config, ?_, ?_⟩
  · exact congrArg (fun texts => texts.insert uri text) h.texts
  · exact congrArg (fun documents => documents.insert uri (Document.ofText uri text)) h.documents

theorem SameStore.edit {s s' : Session} (h : SameStore s s') (e : Edit) :
    SameStore (e.apply s) (e.apply s') := by
  cases e with
  | opened uri text => exact h.openDocument uri text
  | changed uri texts =>
      cases texts with
      | nil => exact h
      | cons text more => exact h.openDocument uri text
  | closed uri =>
      refine ⟨h.root, h.config, ?_, ?_⟩
      · exact congrArg (fun texts => texts.erase uri) h.texts
      · exact congrArg (fun documents => documents.erase uri) h.documents

theorem SameStore.edited {s s' : Session} (h : SameStore s s') (edits : List Edit) :
    SameStore (s.edited edits) (s'.edited edits) := by
  unfold Session.edited
  induction edits generalizing s s' with
  | nil => exact h
  | cons e edits ih => exact ih (h.edit e)

namespace Alike

variable {s s' : Session}

theorem openDocument (h : Alike s s') (uri text : String) :
    Alike (s.openDocument uri text) (s'.openDocument uri text) := by
  refine ⟨h.toSameStore.openDocument uri text, fun other => ?_⟩
  rw [files_openDocument, files_openDocument, h.files other]

theorem edit (h : Alike s s') (e : Edit) : Alike (e.apply s) (e.apply s') := by
  cases e with
  | opened uri text => exact h.openDocument uri text
  | changed uri texts =>
      cases texts with
      | nil => exact h
      | cons text more => exact h.openDocument uri text
  | closed uri => exact ⟨h.toSameStore.edit (.closed uri), h.files⟩

theorem endScan (h : Alike s s') (disk : FileTree) :
    Alike (s.endScan s disk) (s'.endScan s' disk) := by
  refine ⟨((SameStore.endScan s s disk).trans h.toSameStore).trans
    (SameStore.endScan s' s' disk).symm, fun uri => ?_⟩
  obtain ⟨hleft, hwritten⟩ := files_endScan s s disk uri
  obtain ⟨hleft', hwritten'⟩ := files_endScan s' s' disk uri
  by_cases hopen : s.isOpen uri = true
  · rw [hleft hopen, hleft' (h.isOpen uri ▸ hopen), h.files uri]
  · rw [hwritten hopen, hwritten' (h.isOpen uri ▸ hopen), h.files uri, h.root, h.config]

/-- **No event tells alike sessions apart.** -/
theorem apply (h : Alike s s') (e : Event) : Alike (e.apply s) (e.apply s') := by
  rcases e.apply_cases with ⟨disk, hdisk⟩ | ⟨env, rootUri, rfl⟩ | ⟨edit, rfl⟩ | ⟨config, rfl⟩
  · rw [hdisk, hdisk]
    exact h.endScan disk
  · -- the root is kept if the editor names none
    refine ⟨⟨?_, rfl, h.texts, h.documents⟩, h.files⟩
    rw [Event.apply, Event.apply, attach, attach, h.root]
  · exact h.edit edit
  · exact ⟨⟨h.root, rfl, h.texts, h.documents⟩, h.files⟩

theorem after (h : Alike s s') (events : List Event) : Alike (s.after events) (s'.after events) := by
  unfold Session.after
  induction events generalizing s s' with
  | nil => exact h
  | cons e events ih => exact ih (h.apply e)

end Alike

/-! ### A scan and edits change places -/

/-- The edit hands over a text of the document or closes it. -/
def Edit.concerns (uri : String) : Edit → Bool
  | .closed u => u == uri
  | e => e.hands uri

theorem Edit.concerns_of_hands {uri : String} {e : Edit} (h : e.hands uri = true) :
    e.concerns uri = true := by
  cases e with
  | opened _ _ => exact h
  | changed _ _ => exact h
  | closed _ => cases h

theorem Edit.texts_of_not_concerns {uri : String} {e : Edit} (h : e.concerns uri = false)
    (s : Session) : (e.apply s).texts[uri]? = s.texts[uri]? := by
  cases e with
  | opened u text =>
      have hu : u ≠ uri := by simpa [concerns, hands] using h
      exact (texts_openDocument s u text uri).trans (if_neg hu)
  | changed u texts =>
      cases texts with
      | nil => rfl
      | cons text more =>
          have hu : u ≠ uri := by simpa [concerns, hands] using h
          exact (texts_openDocument s u text uri).trans (if_neg hu)
  | closed u =>
      have hu : u ≠ uri := by simpa [concerns] using h
      exact (texts_closeDocument s u uri).trans (if_neg hu)

theorem texts_edited_of_not_concerns {uri : String} {edits : List Edit}
    (h : edits.any (Edit.concerns uri) = false) (s : Session) :
    (s.edited edits).texts[uri]? = s.texts[uri]? := by
  induction edits generalizing s with
  | nil => rfl
  | cons e edits ih =>
      obtain ⟨he, hedits⟩ : e.concerns uri = false ∧ edits.any (Edit.concerns uri) = false := by
        simpa using h
      exact (ih hedits (e.apply s)).trans (Edit.texts_of_not_concerns he s)

/-- Edits after which the document is open, though none of them hands over its text, have left it
open all the time. -/
theorem isOpen_of_isOpen_edited {s : Session} {uri : String} {edits : List Edit}
    (h : edits.any (Edit.hands uri) = false) (hopen : (s.edited edits).isOpen uri = true) :
    s.isOpen uri = true := by
  rw [isOpen, Std.TreeMap.contains_eq_isSome_getElem?] at hopen ⊢
  obtain ⟨text, htext⟩ := Option.isSome_iff_exists.1 hopen
  rw [(edited_of_not_hands h s).2 text htext]
  rfl

/-- **A scan and edits change places**, if the documents the edits are about are open after them. -/
theorem alike_scan_edited (s : Session) (disk : FileTree) {edits : List Edit}
    (hopen : ∀ uri, edits.any (Edit.concerns uri) = true → (s.edited edits).isOpen uri = true) :
    Alike ((s.endScan s disk).edited edits)
      ((s.edited edits).endScan (s.edited edits) disk) := by
  have hstore : SameStore ((s.endScan s disk).edited edits) (s.edited edits) :=
    (SameStore.endScan s s disk).edited edits
  refine ⟨hstore.trans (SameStore.endScan _ _ disk).symm, fun uri => ?_⟩
  obtain ⟨hleft, hwritten⟩ := files_endScan (s.edited edits) (s.edited edits) disk uri
  by_cases hhands : edits.any (Edit.hands uri) = true
  · -- both orders leave the declarations of the text that was handed over last
    have hconcerns : edits.any (Edit.concerns uri) = true := by
      obtain ⟨e, he, hhand⟩ := List.any_eq_true.1 hhands
      exact List.any_eq_true.2 ⟨e, he, Edit.concerns_of_hands hhand⟩
    have hlast := hopen uri hconcerns
    obtain ⟨text, htext⟩ := Option.isSome_iff_exists.1
      (Std.TreeMap.contains_eq_isSome_getElem?.symm.trans hlast)
    rw [hleft hlast, inStep_edited_of_hands hhands s text htext]
    refine inStep_edited_of_hands hhands (s.endScan s disk) text ?_
    rw [hstore.texts]
    exact htext
  · -- no edit changes the entry of the index, and the document is open before them or after
    have hnot : edits.any (Edit.hands uri) = false := by simpa using hhands
    rw [(edited_of_not_hands hnot (s.endScan s disk)).1]
    obtain ⟨hleft', hwritten'⟩ := files_endScan s s disk uri
    have hfiles := (edited_of_not_hands hnot s).1
    obtain ⟨hroot, hconfig⟩ := edited_root_config s edits
    have hsame : (s.edited edits).isOpen uri = s.isOpen uri := by
      by_cases hconcerns : edits.any (Edit.concerns uri) = true
      · have hlast := hopen uri hconcerns
        rw [hlast, isOpen_of_isOpen_edited hnot hlast]
      · rw [isOpen, isOpen, Std.TreeMap.contains_eq_isSome_getElem?,
          Std.TreeMap.contains_eq_isSome_getElem?,
          texts_edited_of_not_concerns (by simpa using hconcerns)]
    by_cases hbegun : s.isOpen uri = true
    · rw [hleft' hbegun, hleft (hsame ▸ hbegun), hfiles]
    · rw [hwritten' hbegun, hwritten (hsame ▸ hbegun), hfiles, hroot, hconfig]

/-! ### Runs -/

/-- What holds of a session after a run of events. -/
structure DocumentsStored (start : Beginning) (events : List Event) : Prop where
  /-- The documents that are stored are those that are open. -/
  stored_iff : ∀ uri, (start.session.after events).documents.contains uri
    = (start.session.after events).texts.contains uri
  /-- What is stored of a document is what is read from its text. -/
  read : ∀ uri text, (start.session.after events).texts[uri]? = some text →
    (start.session.after events).documents[uri]? = some (Document.ofText uri text)
  /-- Nothing is known of a document that was closed, unless its text was handed over again. -/
  closed : ∀ uri earlier later, events = earlier ++ .edited (.closed uri) :: later →
    (∀ e ∈ later, e.hands uri = false) →
      (start.session.after events).analysisOf uri = none ∧
        ∀ position, (start.session.after events).completion uri position = none ∧
          (start.session.after events).definition uri position = [] ∧
          (start.session.after events).hover uri position = none
  /-- Closing a document changes no lookup. -/
  close_keeps : ∀ uri, (start.session.after events).index.SameAnswers
    (start.session.after (events ++ [.edited (.closed uri)])).index
  /-- A scan may be moved behind edits, or before them, if the documents of these edits are left
  open. -/
  scan_moves : ∀ earlier scan (edits : List Edit) later, scan.isScan = true →
    events = earlier ++ scan :: (edits.map .edited ++ later) →
    (∀ uri, edits.any (Edit.concerns uri) = true →
      (start.session.after (earlier ++ edits.map .edited)).isOpen uri = true) →
    (start.session.after events).index.SameAnswers
      (start.session.after (earlier ++ (edits.map .edited ++ scan :: later))).index

/-- **The store after any run of events**, in any order and number. -/
theorem documents_stored (start : Beginning) (events : List Event) :
    DocumentsStored start events := by
  have hconsistent : ∀ events, (start.session.after events).Consistent :=
    (consistent_beginning start).after
  have hkept := hconsistent events
  refine ⟨fun uri => ?_, fun uri text htext => ?_, fun uri earlier later hevents hlater => ?_,
    fun uri => ?_, fun earlier scan edits later hscan hevents hopen => ?_⟩
  · rw [Std.TreeMap.contains_eq_isSome_getElem?, Std.TreeMap.contains_eq_isSome_getElem?,
      hkept.documents, Option.isSome_map]
  · rw [hkept.documents, htext]
    rfl
  · refine hkept.answers_nothing ?_
    rw [hevents, after_append]
    refine texts_after_eq_none hlater ?_
    exact (texts_closeDocument _ uri uri).trans (if_pos rfl)
  · refine hkept.filled.sameAnswers (hconsistent _).filled fun other => ?_
    rw [after_append]
    rfl
  · refine hkept.filled.sameAnswers (hconsistent _).filled ?_
    obtain ⟨disk, hdisk⟩ := Event.apply_scan hscan
    have hswap : Alike
        (((start.session.after earlier).endScan (start.session.after earlier) disk).edited edits)
        (((start.session.after earlier).edited edits).endScan
          ((start.session.after earlier).edited edits) disk) := by
      refine alike_scan_edited _ disk fun uri huri => ?_
      rw [← after_edits, ← after_append]
      exact hopen uri huri
    rw [hevents, after_append, after_append, after_append]
    have hfirst : ∀ s : Session, s.after (scan :: (edits.map .edited ++ later))
        = ((s.endScan s disk).edited edits).after later := by
      intro s
      rw [← hdisk, ← after_edits, ← after_append]
      rfl
    have hsecond : ∀ s : Session, s.after (scan :: later) = (s.endScan s disk).after later := by
      intro s
      rw [← hdisk]
      rfl
    rw [hfirst, hsecond, after_edits]
    exact (hswap.after later).files

end Session

end MockLens
