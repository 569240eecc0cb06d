/-
**Offered names: what an offered class means once the offer is accepted.**

Inside the quotes of a call that constructs a mock, an offer puts the path of a class or interface
in the place of what is typed.  Two things decide whether the call is then one of that class.  The
literal has to be read back as the path: so it is between single quotes, but double quotes take the
backslashes for escapes (`MockLens/Proofs/Quoted.lean`).  And the path has to be resolved to the
class: so it is when a backslash stands in front, but without one a class of the same name, found
earlier, goes before it.

Main definitions:

* `Declaration.WellNamed` — a class-like has a path for its name;
* `Index.AcceptedOffer` — what an offer between two quotes comes to.

Main results:

* `Analysis.Visited.exists_mocking` — the key of a call that constructs a mock of a literal;
* `Index.IsFilled.exists_mem_resolveName_iff` — the names that are resolved to what they name;
* `Index.offers_accepted` — **what every offer comes to, in every index**;
* `Index.offer_lost_in_double_quotes` — an offer that is lost.
-/
import MockLens.Completion
import MockLens.Document
import MockLens.Proofs.Courses
import MockLens.Proofs.IndexRuns
import MockLens.Proofs.PassThrough
import MockLens.Proofs.Quoted

set_option autoImplicit false

namespace MockLens

/-! ### Names that are paths -/

/-- The name of a declaration is a path to put a backslash in front of, and the short name is its
last segment. -/
structure Declaration.WellNamed (d : Declaration) : Prop where
  rooted : Php.IsPath ('\\' :: d.fqn.toList)
  short : d.name = shortName d.fqn

namespace Declaration.WellNamed

variable {d : Declaration} (h : d.WellNamed)

include h

theorem isPath : Php.IsPath d.fqn.toList := h.rooted.of_cons

theorem exists_cons : ∃ c cs, d.fqn.toList = c :: cs ∧ c ≠ '\\' := by
  have hrooted := h.rooted
  generalize d.fqn.toList = cs at hrooted
  cases hrooted with
  | part hslash _ =>
      rw [Php.isNamePart_backslash] at hslash
      cases hslash
  | segment hc _ =>
      exact ⟨_, _, rfl, Php.ne_backslash_of_isNamePart (Php.isNamePart_of_isNameStart hc)⟩

theorem ne_empty : d.fqn ≠ "" := by
  obtain ⟨c, cs, hcs, -⟩ := h.exists_cons
  rintro hempty
  simp [hempty] at hcs

theorem unrooted : Text.startsWith "\\" d.fqn = false := by
  obtain ⟨c, cs, hcs, hc⟩ := h.exists_cons
  rw [← Bool.not_eq_true, Text.startsWith_iff]
  rintro ⟨rest, hrest⟩
  rw [hrest, String.toList_append] at hcs
  obtain ⟨hslash, -⟩ := List.cons.inj hcs
  exact hc hslash.symm

end Declaration.WellNamed

/-! ### Calls that construct a mock of a literal -/

theorem CallKind.staticSignature_mem_mockSignatures {method : String}
    (h : method ∈ mockConstruction.methods) :
    CallSite.staticSignature "\\Phake" method ∈ mockSignatures :=
  List.mem_map_of_mem (f := CallSite.staticSignature "\\Phake") h

/-- The signature of a method that constructs mocks is that of a static call, and the literal of a
key is told apart from it. -/
theorem CallKind.marks_of_mem_mockSignatures {signature : String} (h : signature ∈ mockSignatures) :
    Text.startsWith "#M#C" signature = true ∧ '~' ∉ signature.toList := by
  revert signature
  decide

theorem VirtualType.parse_mockKey {signature : String} (h : signature ∈ CallKind.mockSignatures)
    (literal : String) : parse (toKey (.mock signature literal)) = some (.mock signature literal) :=
  parse_toKey_mock (CallKind.marks_of_mem_mockSignatures h).2 literal

/-- A call of the facade that constructs a mock of a literal is recorded with the key of the
literal. -/
theorem Analysis.Visited.exists_mocking {imports : Imports} {program : List Php.Stmt}
    {st : Analysis.State} {span place : Span} {cls : Php.Expr} {method : Php.Identifier}
    {contents : String} {arguments : List Php.Expr}
    (h : Visited imports program
      (.staticCall span cls (.named method) (.string place (some contents) :: arguments)) st)
    (hcls : namedClass? imports st cls = some (some "\\Phake"))
    (hmethod : method.text ∈ CallKind.mockConstruction.methods) (hne : contents ≠ "") :
    ∃ call ∈ (ofStatements imports program).calls.toList, call.span = span ∧
      call.key = some (VirtualType.toKey
        (.mock (CallSite.staticSignature "\\Phake" method.text) contents)) := by
  have hsig := CallKind.staticSignature_mem_mockSignatures hmethod
  have harguments : (argumentsOf imports (.string place (some contents) :: arguments) st).1
      = .literal contents :: (argumentsOf imports arguments st).1 := by
    rw [argumentsOf]
    rfl
  refine ⟨_, (mem_calls_iff program _).2 ⟨_, st, h, by rw [callOf?, hcls]⟩, rfl, ?_⟩
  show CallSite.key _ = _
  rw [CallSite.key, CallSite.virtualType_of_mem_mockSignatures hsig harguments, if_neg hne]
  rfl

/-! ### What is offered -/

section Distinct

variable {α : Type} (key : α → String)

theorem distinctBy_cons (x : α) (xs : List α) :
    distinctBy key (x :: xs) = x :: distinctBy key (xs.filter fun y => key y ≠ key x) := by
  rw [distinctBy, distinctBy, List.eraseDupsBy_cons]
  congr 3
  funext y
  by_cases h : key y = key x <;> simp [h]

/-- The elements that are kept stay in their order. -/
theorem sublist_distinctBy : ∀ xs : List α, (distinctBy key xs).Sublist xs
  | [] => .slnil
  | x :: xs => by
      rw [distinctBy_cons]
      exact ((sublist_distinctBy _).trans List.filter_sublist).cons_cons x
termination_by xs => xs.length
decreasing_by exact Nat.lt_succ_of_le (List.length_filter_le _ _)

end Distinct

namespace Index

theorem exists_of_mem_classNameItems {ix : Index} (h : ix.IsFilled) {typed : String}
    {range : Range} {item : CompletionItem} (hitem : item ∈ ix.classNameItems typed range) :
    ∃ d ∈ declarationsOf ix.files, (d.kind = .cls ∨ d.kind = .interface) ∧
      item = classNameItem typed range d := by
  obtain ⟨d, hd, rfl⟩ := List.mem_map.1 hitem
  have hcatalogue := List.mem_of_mem_filter ((sublist_distinctBy _ _).subset hd)
  rcases List.mem_append.1 hcatalogue with hd | hd
  · obtain ⟨hd, hkind⟩ := h.mem_of_mem_catalogue hd
    exact ⟨d, hd, .inl hkind, rfl⟩
  · obtain ⟨hd, hkind⟩ := h.mem_of_mem_catalogue hd
    exact ⟨d, hd, .inr hkind, rfl⟩

theorem start_of_staticCall? {start : Nat} {typed : String} {before : List Char}
    {literal : Cursor.OpenLiteral} (h : Cursor.staticCall? start typed before = some literal) :
    literal.start = start ∧ literal.typed = typed := by
  unfold Cursor.staticCall? at h
  split at h
  · dsimp only at h
    split at h
    · cases h
    · obtain rfl := Option.some.inj h
      exact ⟨rfl, rfl⟩
  · cases h

/-- A literal is open behind a quote: what is typed are the characters of a path up to it. -/
theorem exists_of_openLiteral? {before : List Char} {literal : Cursor.OpenLiteral}
    (h : Cursor.openLiteral? before = some literal) :
    ∃ quote callee, (quote = '\'' ∨ quote = '"') ∧
      before = before.takeWhile Cursor.isPathPart ++ quote :: callee ∧
      literal.start = Text.byteLength (quote :: callee) ∧
      literal.typed = Cursor.forwards (before.takeWhile Cursor.isPathPart) := by
  have hsplit := List.takeWhile_append_dropWhile (p := Cursor.isPathPart) (l := before)
  unfold Cursor.openLiteral? at h
  split at h
  · rename_i quote callee hdrop
    rw [hdrop] at hsplit
    split at h
    · rename_i hquote
      split at h
      · exact ⟨quote, callee, by simpa using hquote, hsplit.symm, start_of_staticCall? h⟩
      · cases h
    · cases h
  · cases h

/-- An offer is made behind the quote that opens the first argument of a call that constructs a
mock, and it takes the place of what stands behind that quote. -/
theorem exists_of_literalItems {ix : Index} {symbols : Symbols} {content before : List Char}
    {items : List CompletionItem} (h : ix.literalItems symbols content before = some items) :
    ∃ quote callee, (quote = '\'' ∨ quote = '"') ∧
      before = before.takeWhile Cursor.isPathPart ++ quote :: callee ∧
      items = ix.classNameItems (Cursor.forwards (before.takeWhile Cursor.isPathPart))
        ⟨Position.ofOffset content (Text.byteLength (quote :: callee)),
          Position.ofOffset content (Text.byteLength before)⟩ := by
  unfold literalItems at h
  split at h
  · rename_i literal hliteral
    obtain ⟨quote, callee, hquote, hbefore, hstart, htyped⟩ := exists_of_openLiteral? hliteral
    dsimp only at h
    split at h
    · obtain rfl := Option.some.inj h
      exact ⟨quote, callee, hquote, hbefore, by rw [hstart, htyped]⟩
    · cases h
  · cases h

/-! ### What a path is resolved to -/

/-- A backslash in front of a path is not part of its key. -/
theorem pathKey_backslash (path : String) : pathKey ("\\" ++ path) = Text.lower path := by
  rw [pathKey, Text.dropPrefix?_eq_some_iff.2 rfl]
  rfl

theorem pathKey_rooted (path : String) (h : Text.startsWith "\\" path = false) :
    pathKey ("\\" ++ path) = pathKey path := by
  rw [pathKey_backslash, pathKey, Text.dropPrefix?_eq_none h]
  rfl

theorem shortName_eq_self {path : String} (h : Text.hasChar '\\' path = false) :
    shortName path = path := by
  have hcut : Text.cutLast '\\' path = none := by
    rw [Text.cutLast, Text.cutLastChars_eq_none_iff.2]
    · rfl
    · simpa [Text.hasChar] using h
  rw [shortName, Text.afterLast, hcut]
  rfl

section Resolution

variable {ix : Index} (h : ix.IsFilled) {d : Declaration} (hd : d ∈ declarationsOf ix.files)
  (hnamed : d.WellNamed)

include h hd hnamed

/-- A path with a backslash in front is resolved to all class-likes it names. -/
theorem IsFilled.mem_resolveName_rooted (hkind : d.isClassLike = true) :
    d ∈ ix.resolveName ("\\" ++ d.fqn) := by
  have hroot : Text.startsWith "\\" ("\\" ++ d.fqn) = true := Text.startsWith_iff.2 ⟨_, rfl⟩
  show d ∈ ix.lookups.resolveName _
  rw [Lookups.resolveName, if_pos hroot]
  show d ∈ ix.classLikesAt _
  rw [h.classLikesAt_eq, Reference.classLikesAt, List.mem_filter, hkind, Bool.true_and,
    Reference.samePath_iff]
  exact ⟨hd, (pathKey_rooted _ hnamed.unrooted).symm⟩

omit h hd in
/-- A well named declaration fits its own name. -/
theorem fits_fqn : Reference.fits d.fqn d = true := by
  unfold Reference.fits
  split
  · exact Reference.samePath_iff.2 rfl
  · rename_i hslash
    rw [hnamed.short, shortName_eq_self (by simpa using hslash)]
    exact Text.sameFold_iff.2 rfl

/-- A path without a backslash in front is resolved to the class-like it names exactly when no
class of another name goes before it. -/
theorem IsFilled.exists_mem_resolveName_iff (hkind : d.kind = .cls ∨ d.kind = .interface) :
    (∃ c ∈ ix.resolveName d.fqn, c.isClassLike = true ∧ c.fqn = d.fqn) ↔
      ∀ c, ix.classByName d.fqn = some c → c.fqn = d.fqn := by
  have hresolve : ix.resolveName d.fqn
      = (ix.classByName d.fqn).elim (ix.interfacesByName d.fqn) fun c => [c] := by
    show ix.lookups.resolveName _ = _
    rw [Lookups.resolveName, if_neg (by simp [hnamed.unrooted])]
    cases hclass : ix.classByName d.fqn <;> simp [lookups, hclass]
  cases hclass : ix.classByName d.fqn with
  | some c =>
      have hc : c.kind = .cls := by
        rw [h.classByName_eq, Reference.classByName] at hclass
        have hfound := List.find?_some hclass
        rw [Bool.and_eq_true, beq_iff_eq] at hfound
        exact hfound.1
      simp [hresolve, hclass, Declaration.isClassLike, hc, DeclarationKind.isClassLike]
  | none =>
      -- no class has the name, so the declaration itself is an interface
      have hinterface : d.kind = .interface := by
        rw [h.classByName_eq, Reference.classByName, List.find?_eq_none] at hclass
        refine hkind.resolve_left fun hkind => hclass d hd ?_
        rw [hkind, fits_fqn hnamed]
        rfl
      refine iff_of_true ⟨d, ?_, ?_, rfl⟩ (by simp)
      · rw [hresolve, hclass]
        show d ∈ ix.interfacesByName _
        rw [h.interfacesByName_eq, Reference.interfacesByName, List.mem_filter, hinterface,
          fits_fqn hnamed]
        exact ⟨hd, rfl⟩
      · rw [Declaration.isClassLike, hinterface]
        rfl

end Resolution

/-- The signature of a static call names methods only. -/
theorem IsFilled.isClassLike_of_mem_bySignature {ix : Index} (h : ix.IsFilled) {signature : String}
    (hstatic : Text.startsWith "#M#C" signature = true) {d : Declaration}
    (hd : d ∈ ix.bySignature signature) : d.isClassLike = false := by
  obtain ⟨call, hcall⟩ := Text.startsWith_iff.1 hstatic
  rw [bySignature, Text.dropPrefix?_eq_some_iff.2 hcall] at hd
  dsimp only at hd
  split at hd
  · rw [h.methodsOf_eq] at hd
    have hmethod := (List.mem_filter.1 (List.mem_of_mem_filter hd)).2
    rw [Bool.and_eq_true, beq_iff_eq] at hmethod
    rw [Declaration.isClassLike, hmethod.1]
    rfl
  · cases hd

/-- The key of a mock stands for the methods of the builder and for what its names are resolved
to. -/
theorem resolveKey_mock (ix : Index) {signature : String}
    (hsig : signature ∈ CallKind.mockSignatures) (binder literal : String) :
    ix.resolveKey binder (VirtualType.toKey (.mock signature literal))
      = (ix.bySignature signature
          ++ (Text.splitNonEmpty '|' literal).flatMap ix.resolveName).eraseDups := by
  rw [resolveKey, Lookups.resolveKey, VirtualType.parse_mockKey hsig]
  rfl

/-- Of the class-likes, the key of a mock of one path stands for what the path is resolved to. -/
theorem IsFilled.mem_resolveKey_mock {ix : Index} (h : ix.IsFilled) {signature path binder : String}
    (hsig : signature ∈ CallKind.mockSignatures) (hpath : Php.IsPath path.toList)
    (hne : path ≠ "") {c : Declaration} (hc : c.isClassLike = true) :
    c ∈ ix.resolveKey binder (VirtualType.toKey (.mock signature path)) ↔
      c ∈ ix.resolveName path := by
  have hsegments : Text.splitNonEmpty '|' path = [path] := by
    rw [Text.splitNonEmpty_of_notMem (hpath.notMem (by decide) (by decide)), if_neg hne]
  have hmethods : c ∉ ix.bySignature signature := by
    obtain ⟨hstatic, -⟩ := CallKind.marks_of_mem_mockSignatures hsig
    intro hmem
    rw [h.isClassLike_of_mem_bySignature hstatic hmem] at hc
    cases hc
  rw [resolveKey_mock ix hsig, hsegments, List.mem_eraseDups, List.mem_append,
    List.flatMap_singleton]
  exact or_iff_right hmethods

/-! ### Accepted offers -/

/-- What the offer of a name between two quotes comes to once it is accepted: the text between the
quotes and the literal it makes, the value of that literal and, where that is the text itself, the
declarations the call stands for. -/
structure AcceptedOffer (ix : Index) (name : String) (quote : Char) (newText : String) : Prop where
  /-- The text is the name that is offered, with or without a backslash in front. -/
  names : newText = name ∨ newText = "\\" ++ name
  /-- The literal is one token, whatever stands behind it. -/
  token : ∀ inString rest, Php.codeLexeme inString (quote :: (newText.toList ++ quote :: rest))
    = some ⟨some .quoted, newText.length + 2⟩
  /-- Its value is the text, unless double quotes take a backslash for an escape. -/
  value : Php.Quoted.value (Php.Quoted.literal quote newText) = some newText ↔
    quote = '\'' ∨ Php.Quoted.KeepsBackslashes newText.toList
  /-- A call of the facade with this literal then stands for the class-like that is offered, unless
  a class of another name goes before it. -/
  meant : quote = '\'' ∨ Php.Quoted.KeepsBackslashes newText.toList →
    ∀ imports program st span cls method place arguments,
      Analysis.Visited imports program (.staticCall span cls (.named method)
        (.string place (Php.Quoted.value (Php.Quoted.literal quote newText)) :: arguments)) st →
      Analysis.namedClass? imports st cls = some (some "\\Phake") →
      method.text ∈ CallKind.mockConstruction.methods →
        ∃ call ∈ (Analysis.ofStatements imports program).calls.toList, call.span = span ∧
          ∃ key, call.key = some key ∧ ∀ binder,
            (∃ c ∈ ix.resolveKey binder key, c.isClassLike = true ∧ c.fqn = name) ↔
              (Text.startsWith "\\" newText = true ∨
                ∀ c, ix.classByName newText = some c → c.fqn = name)

/-- A text that is resolved to what it names makes an accepted offer. -/
theorem IsFilled.acceptedOffer {ix : Index} (h : ix.IsFilled) {name newText : String}
    (hnames : newText = name ∨ newText = "\\" ++ name)
    (hpath : Php.IsPath newText.toList) (hne : newText ≠ "")
    (hresolved : (∃ c ∈ ix.resolveName newText, c.isClassLike = true ∧ c.fqn = name) ↔
      (Text.startsWith "\\" newText = true ∨
        ∀ c, ix.classByName newText = some c → c.fqn = name))
    {quote : Char} (hquote : quote = '\'' ∨ quote = '"') :
    ix.AcceptedOffer name quote newText where
  names := hnames
  token inString rest := Php.Quoted.codeLexeme_literal hpath rest hquote inString
  value := Php.Quoted.value_literal_iff hpath hquote
  meant hread imports program st span cls method place arguments hvisited hcls hmethod := by
    rw [(Php.Quoted.value_literal_iff hpath hquote).2 hread] at hvisited
    obtain ⟨call, hcall, hspan, hkey⟩ := hvisited.exists_mocking hcls hmethod hne
    refine ⟨call, hcall, hspan, _, hkey, fun binder => ?_⟩
    have hsig := CallKind.staticSignature_mem_mockSignatures hmethod
    rw [← hresolved]
    constructor
    · rintro ⟨c, hc, hlike, hname⟩
      exact ⟨c, (h.mem_resolveKey_mock hsig hpath hne hlike).1 hc, hlike, hname⟩
    · rintro ⟨c, hc, hlike, hname⟩
      exact ⟨c, (h.mem_resolveKey_mock hsig hpath hne hlike).2 hc, hlike, hname⟩

/-- What is offered for a well named class or interface is resolved to what it names, unless a
class of another name goes before it. -/
theorem IsFilled.exists_acceptedOffer {ix : Index} (h : ix.IsFilled) {d : Declaration}
    (hd : d ∈ declarationsOf ix.files) (hnamed : d.WellNamed)
    (hkind : d.kind = .cls ∨ d.kind = .interface) (typed : String) (range : Range) {quote : Char}
    (hquote : quote = '\'' ∨ quote = '"') :
    ∃ newText, (classNameItem typed range d).textEdit = some ⟨range, newText⟩ ∧
      ix.AcceptedOffer d.fqn quote newText := by
  refine ⟨_, rfl, ?_⟩
  have hlike : d.isClassLike = true := by
    rcases hkind with hkind | hkind <;> rw [Declaration.isClassLike, hkind] <;> rfl
  by_cases hrooted : Text.startsWith "\\" typed = true
  · rw [if_pos hrooted]
    have hpath : Php.IsPath ("\\" ++ d.fqn).toList := by simpa using hnamed.rooted
    have hroot : Text.startsWith "\\" ("\\" ++ d.fqn) = true := Text.startsWith_iff.2 ⟨_, rfl⟩
    refine h.acceptedOffer (.inr rfl) hpath (by simp) ?_ hquote
    exact iff_of_true ⟨d, h.mem_resolveName_rooted hd hnamed hlike, hlike, rfl⟩ (.inl hroot)
  · rw [if_neg hrooted]
    refine h.acceptedOffer (.inl rfl) hnamed.isPath hnamed.ne_empty ?_ hquote
    have hresolved := h.exists_mem_resolveName_iff hd hnamed hkind
    simpa [hnamed.unrooted] using hresolved

/-- **What every offer comes to**, in every index and at every cursor in quotes.  An offer takes the
place of all that stands between the quote and the cursor. -/
theorem offers_accepted (changes : List Change)
    (hnamed : ∀ uri ds, replay changes uri = some ds → ∀ d ∈ ds,
      d.kind = .cls ∨ d.kind = .interface → d.WellNamed)
    (symbols : Symbols) (content before : List Char) (items : List CompletionItem)
    (hitems : (run changes).literalItems symbols content before = some items) :
    ∃ quote callee typed, (quote = '\'' ∨ quote = '"') ∧ before = typed ++ quote :: callee ∧
      (∀ c ∈ typed, Cursor.isPathPart c = true) ∧ ∀ item ∈ items, ∃ newText,
        item.textEdit = some
          ⟨⟨Position.ofOffset content (Text.byteLength (quote :: callee)),
            Position.ofOffset content (Text.byteLength before)⟩, newText⟩ ∧
          (run changes).AcceptedOffer item.detail quote newText := by
  have hrun := represents_run changes
  obtain ⟨quote, callee, hquote, hbefore, rfl⟩ := exists_of_literalItems hitems
  refine ⟨quote, callee, _, hquote, hbefore, List.all_eq_true.1 List.all_takeWhile,
    fun item hitem => ?_⟩
  obtain ⟨d, hd, hkind, rfl⟩ := exists_of_mem_classNameItems hrun.filled hitem
  obtain ⟨uri, ds, hknown, hmem⟩ := hrun.mem_declarationsOf hd
  exact hrun.filled.exists_acceptedOffer hd (hnamed uri ds hknown d hmem hkind) hkind _ _ hquote

/-- A class that is offered between single quotes. -/
theorem offers_accepted_single_quotes :
    let user : Declaration :=
      ⟨.cls, "User", "App\\nested\\User", none, false, "file:///lib/User.php", ⟨2, 6⟩⟩
    let changes : List Change := [.update "file:///lib/User.php" [user]]
    let typed := "<?php Phake::mock('"
    ∃ items, (run changes).literalItems {} (typed ++ "');").toList typed.toList.reverse
        = some items ∧ items.map CompletionItem.detail = ["App\\nested\\User"] ∧
      ∃ quote, ∀ item ∈ items, ∃ newText,
        (run changes).AcceptedOffer item.detail quote newText := by
  intro user changes typed
  have hnamed : ∀ uri ds, replay changes uri = some ds → ∀ d ∈ ds,
      d.kind = .cls ∨ d.kind = .interface → d.WellNamed := by
    intro uri ds hds d hd _
    have huser : ds = [user] := by
      simp only [changes, replay, List.foldl_cons, List.foldl_nil, Change.replay, Account.put,
        Function.update_apply] at hds
      split at hds
      · exact (Option.some.inj hds).symm
      · cases hds
    rw [huser, List.mem_singleton] at hd
    rw [hd]
    exact ⟨by decide, by decide⟩
  have hdetails : ((run changes).literalItems {} (typed ++ "');").toList typed.toList.reverse).map
      (List.map CompletionItem.detail) = some ["App\\nested\\User"] := by
    decide +kernel
  obtain ⟨items, hitems, hdetail⟩ := Option.map_eq_some_iff.1 hdetails
  obtain ⟨quote, _, _, _, _, _, haccepted⟩ := offers_accepted changes hnamed {} _ _ items hitems
  refine ⟨items, hitems, hdetail, quote, fun item hitem => ?_⟩
  obtain ⟨newText, -, hoffer⟩ := haccepted item hitem
  exact ⟨newText, hoffer⟩

/-- **An offer is lost between double quotes**: the path that is offered for the class has a
backslash that is taken for an escape, and the call stands for nothing. -/
theorem offer_lost_in_double_quotes :
    let user : Declaration :=
      ⟨.cls, "User", "App\\nested\\User", none, false, "file:///lib/User.php", ⟨2, 6⟩⟩
    let ix := run [.update "file:///lib/User.php" [user]]
    let typed := "<?php Phake::mock(\""
    let doc := Document.ofText "file:///t.php" (typed ++ "App\\nested\\User" ++ "\");")
    ((ix.literalItems {} (typed ++ "\");").toList typed.toList.reverse).map fun items =>
        items.map fun item => (item.detail, item.textEdit.map TextEdit.newText))
      = some [("App\\nested\\User", some "App\\nested\\User")] ∧
      doc.analysis.calls.toList.map Call.key = [some "<01>#M#C\\Phake.mock~App\nestedUser"] ∧
      ix.resolveKey "Binder" "<01>#M#C\\Phake.mock~App\nestedUser" = [] := by
  decide +kernel

end Index

end MockLens
