/-
**The grammar of a literal that is being typed.**

Completion reads the text before the cursor backwards, run by run
(`MockLens/Completion/Cursor.lean`), and what it looks for is a form of the text: a class, two
colons, a method, a parenthesis and a quote, with blanks around the parenthesis and what is typed
behind the quote.  Here that form is written down by its parts, and reading a text is shown to be
taking it apart: a literal is read from a text exactly when the text has the form, it has it in one
way only, and what is read are the parts.  Where a literal is read, class names are offered exactly
if the call would encode as a mock, and an offer takes the place of what is typed.

Main definitions:

* `Cursor.OpenCall` — the parts of a text that ends in `class::method('typed`;
* `Cursor.OpenCall.text`, `Cursor.OpenCall.literal` — the text, and what is read from it;
* `CallSite.IsMock` — a call that encodes as a mock;
* `LiteralsOf` — what is read from a text and offered behind it.

Main results:

* `Cursor.OpenCall.text_injective` — a text is put together in one way;
* `Cursor.openLiteral?_reverse_eq_some_iff` — **a literal is read from the texts of that form**;
* `literals_read` — **reading, offering and editing**, for every text.
-/
import MockLens.Proofs.Cursor
import MockLens.Proofs.NameRanges
import MockLens.Proofs.OfferedNames

set_option autoImplicit false

namespace MockLens

namespace Text

/-- A text begins with one run of characters of a kind. -/
theorem IsRun.unique {p : Char → Bool} {run rest run' rest' : List Char} (h : IsRun p run rest)
    (h' : IsRun p run' rest') (hsame : run ++ rest = run' ++ rest') :
    run = run' ∧ rest = rest' := by
  have hrun := h'.takeWhile_eq
  rw [← hsame, h.takeWhile_eq] at hrun
  exact ⟨hrun, List.append_cancel_left (hrun ▸ hsame)⟩

end Text

namespace Cursor

open Text (IsRun)

/-! ### The form -/

/-- The parts of a text that ends in `class::method('typed`: what stands in front, the class, the
method, the blanks on either side of the parenthesis, the quote, and what is typed.  What stands in
front does not go on with the class.  The alphabets are those of `isPathPart_iff`, `isWord_iff` and
`isBlank_iff`. -/
@[ext]
structure OpenCall where
  front : List Char
  cls : List Char
  method : List Char
  outer : List Char
  inner : List Char
  quote : Char
  typed : List Char
  cls_ne_nil : cls ≠ []
  method_ne_nil : method ≠ []
  isPathPart_cls : ∀ c ∈ cls, isPathPart c = true
  isWord_method : ∀ c ∈ method, isWord c = true
  isBlank_outer : ∀ c ∈ outer, Text.isBlank c = true
  isBlank_inner : ∀ c ∈ inner, Text.isBlank c = true
  isOpening_quote : isOpening quote = true
  isPathPart_typed : ∀ c ∈ typed, isPathPart c = true
  front_ends : ∀ c ∈ front.getLast?, isPathPart c = false

namespace OpenCall

/-- The text up to the quote. -/
def head (c : OpenCall) : List Char :=
  c.front ++ c.cls ++ ':' :: ':' :: c.method ++ c.outer ++ '(' :: c.inner

/-- The text up to what is typed. -/
def opened (c : OpenCall) : List Char := c.head ++ [c.quote]

/-- The whole text. -/
def text (c : OpenCall) : List Char := c.opened ++ c.typed

/-- What is read from the text. -/
def literal (c : OpenCall) : OpenLiteral where
  className := String.ofList c.cls
  method := String.ofList c.method
  start := Text.byteLength c.opened
  typed := String.ofList c.typed

theorem text_eq (c : OpenCall) : c.text = c.head ++ c.quote :: c.typed := by
  rw [text, opened, List.append_assoc, List.singleton_append]

/-! ### One way to take a text apart -/

/-- The text backwards, run by run. -/
theorem reverse_text (c : OpenCall) :
    c.text.reverse = c.typed.reverse ++ c.quote :: (c.inner.reverse ++ '(' :: (c.outer.reverse ++
      (c.method.reverse ++ ':' :: ':' :: (c.cls.reverse ++ c.front.reverse)))) := by
  simp [text, opened, head]

theorem isRun_cls (c : OpenCall) : IsRun isPathPart c.cls.reverse c.front.reverse :=
  isRun_reverse c.isPathPart_cls (by simpa using c.front_ends)

theorem isRun_method (c : OpenCall) :
    IsRun isWord c.method.reverse (':' :: ':' :: (c.cls.reverse ++ c.front.reverse)) :=
  isRun_reverse c.isWord_method (by simp [isWord])

theorem isRun_outer (c : OpenCall) :
    IsRun Text.isBlank c.outer.reverse
      (c.method.reverse ++ ':' :: ':' :: (c.cls.reverse ++ c.front.reverse)) :=
  isRun_reverse c.isBlank_outer (head_not_isBlank c.method_ne_nil c.isWord_method)

theorem isRun_inner (c : OpenCall) (rest : List Char) :
    IsRun Text.isBlank c.inner.reverse ('(' :: rest) :=
  isRun_reverse c.isBlank_inner (by simp [Text.isBlank])

theorem isRun_typed (c : OpenCall) (rest : List Char) :
    IsRun isPathPart c.typed.reverse (c.quote :: rest) :=
  isRun_reverse c.isPathPart_typed fun d hd => by
    obtain rfl : c.quote = d := by simpa using hd
    exact isPathPart_quote c.isOpening_quote

/-- **A text is put together in one way.** -/
theorem text_injective : Function.Injective text := by
  intro c c' h
  have hreverse := congrArg List.reverse h
  rw [c.reverse_text, c'.reverse_text] at hreverse
  -- each run ends where a mark stands that is not of its kind, so the runs agree one by one
  obtain ⟨htyped, hrest⟩ := (c.isRun_typed _).unique (c'.isRun_typed _) hreverse
  obtain ⟨hquote, hrest⟩ := List.cons.inj hrest
  obtain ⟨hinner, hrest⟩ := (c.isRun_inner _).unique (c'.isRun_inner _) hrest
  obtain ⟨-, hrest⟩ := List.cons.inj hrest
  obtain ⟨houter, hrest⟩ := c.isRun_outer.unique c'.isRun_outer hrest
  obtain ⟨hmethod, hrest⟩ := c.isRun_method.unique c'.isRun_method hrest
  obtain ⟨-, hrest⟩ := List.cons.inj hrest
  obtain ⟨-, hrest⟩ := List.cons.inj hrest
  obtain ⟨hcls, hfront⟩ := c.isRun_cls.unique c'.isRun_cls hrest
  exact OpenCall.ext (List.reverse_inj.1 hfront) (List.reverse_inj.1 hcls)
    (List.reverse_inj.1 hmethod) (List.reverse_inj.1 houter) (List.reverse_inj.1 hinner) hquote
    (List.reverse_inj.1 htyped)

/-! ### Reading -/

theorem callee (c : OpenCall) : Callee c.head (String.ofList c.cls) (String.ofList c.method) :=
  .intro ⟨c.cls_ne_nil, c.isPathPart_cls, by simpa using c.front_ends⟩
    ⟨c.method_ne_nil, c.isWord_method⟩ c.isBlank_outer c.isBlank_inner

theorem openLiteral?_text (c : OpenCall) : openLiteral? c.text.reverse = some c.literal := by
  rw [c.text_eq]
  exact (openLiteral?_eq_some_iff c.isOpening_quote c.isPathPart_typed).2 ⟨c.callee, rfl, rfl⟩

end OpenCall

/-- What is written in front of a quote as a call is the head of such a text. -/
theorem Callee.exists_openCall {head typed : List Char} {className method : String} {quote : Char}
    (h : Callee head className method) (hquote : isOpening quote = true)
    (htyped : ∀ c ∈ typed, isPathPart c = true) :
    ∃ c : OpenCall, c.text = head ++ quote :: typed := by
  cases h with
  | @intro before cls method outer inner hcls hmethod houter hinner =>
      let c : OpenCall :=
        { front := before, cls, method, outer, inner, quote, typed
          cls_ne_nil := hcls.1
          method_ne_nil := hmethod.1
          isPathPart_cls := hcls.2.run
          isWord_method := hmethod.2
          isBlank_outer := houter
          isBlank_inner := hinner
          isOpening_quote := hquote
          isPathPart_typed := htyped
          front_ends := by simpa using hcls.2.rest }
      exact ⟨c, c.text_eq⟩

theorem exists_openCall {before : List Char} {literal : OpenLiteral}
    (h : openLiteral? before.reverse = some literal) : ∃ c : OpenCall, c.text = before := by
  obtain ⟨quote, callee, hquote, hbefore, -, -⟩ := Index.exists_of_openLiteral? h
  have hopening : isOpening quote = true := by simpa [isOpening] using hquote
  have hpath : ∀ c ∈ (before.reverse.takeWhile isPathPart).reverse, isPathPart c = true :=
    fun c hc => (Text.isRun_takeWhile isPathPart _).run c (List.mem_reverse.1 hc)
  have hsplit : before
      = callee.reverse ++ quote :: (before.reverse.takeWhile isPathPart).reverse := by
    have hforwards := congrArg List.reverse hbefore
    simpa using hforwards
  rw [hsplit] at h ⊢
  generalize (before.reverse.takeWhile isPathPart).reverse = typed at h hpath ⊢
  obtain ⟨hcallee, -, -⟩ := (openLiteral?_eq_some_iff hopening hpath).1 h
  exact hcallee.exists_openCall hopening hpath

/-- **A literal is read from the texts of the form**, and what is read are their parts. -/
theorem openLiteral?_reverse_eq_some_iff {before : List Char} {literal : OpenLiteral} :
    openLiteral? before.reverse = some literal
      ↔ ∃ c : OpenCall, c.text = before ∧ c.literal = literal := by
  constructor
  · intro h
    obtain ⟨c, rfl⟩ := exists_openCall h
    rw [c.openLiteral?_text] at h
    exact ⟨c, rfl, Option.some.inj h⟩
  · rintro ⟨c, rfl, rfl⟩
    exact c.openLiteral?_text

/-- Blanks may stand around the parenthesis, but not around the colons. -/
example :
    openLiteral? "\\Phake::mock ( \"App\\Mo".toList.reverse
        = some ⟨"\\Phake", "mock", 16, "App\\Mo"⟩ ∧
      openLiteral? "Phake :: mock('Us".toList.reverse = none := by
  decide

end Cursor

/-! ### Offering -/

/-- The call encodes as a mock. -/
def CallSite.IsMock (site : CallSite) : Prop :=
  ∃ signature className, site.virtualType = some (.mock signature className)

/-- A call with a non-empty literal is a mock exactly if its signature constructs one. -/
theorem CallSite.isMock_iff {signature contents : String} (hne : contents ≠ "")
    (others : List CallSite.Argument) (chain : ChainState) :
    IsMock ⟨signature, .literal contents :: others, chain⟩
      ↔ CallKind.ofSignature signature = some .mockConstruction := by
  constructor
  · rintro ⟨_, _, hmock⟩
    have htag : (virtualType ⟨signature, .literal contents :: others, chain⟩).map VirtualType.tag
        = some CallKind.mockConstruction.tag := by
      rw [hmock]
      rfl
    exact ((CallSite.tag_virtualType_eq_some_iff _).1 htag).1
  · intro hkind
    exact ⟨signature, contents, by simp [virtualType, hkind, hne]⟩

namespace Cursor.OpenCall

variable (c : OpenCall) (ix : Index) (symbols : Symbols) (content : List Char)

/-- The signature of the call that is being typed. -/
def signature : String :=
  CallSite.staticSignature (symbols.imports.qualify symbols.scope (String.ofList c.cls))
    (String.ofList c.method)

/-- The place of what is typed. -/
def range : Range :=
  ⟨Position.ofOffset content (Text.byteLength c.opened),
    Position.ofOffset content (Text.byteLength c.text)⟩

/-- Behind the text of a call, the class names are offered if the call constructs a mock. -/
theorem literalItems_text :
    ix.literalItems symbols content c.text.reverse
      = if CallKind.ofSignature (c.signature symbols) = some .mockConstruction then
          some (ix.classNameItems (String.ofList c.typed) (c.range content))
        else none := by
  rw [Index.literalItems, c.openLiteral?_text]
  simp only [beq_iff_eq, Text.byteLength_reverse]
  rfl

theorem isSome_literalItems_iff {contents : String} (hne : contents ≠ "")
    (others : List CallSite.Argument) (chain : ChainState) :
    (ix.literalItems symbols content c.text.reverse).isSome = true
      ↔ CallSite.IsMock ⟨c.signature symbols, .literal contents :: others, chain⟩ := by
  rw [CallSite.isMock_iff hne, c.literalItems_text]
  split <;> simp [*]

variable {content}

/-- The place of what is typed selects it, wherever the text goes on. -/
theorem offsets_range (h : c.text <+: content) :
    (c.range content).start.offset content = Text.byteLength c.opened ∧
      (c.range content).stop.offset content = Text.byteLength c.text ∧
      (c.range content).bytesIn content = Utf8.encode c.typed := by
  have hopened : c.opened <+: content := (List.prefix_append _ _).trans h
  have hstart : (c.range content).start.offset content = Text.byteLength c.opened := by
    rw [range, Position.ofOffset_byteLength hopened, Position.offset_behind hopened]
  have hstop : (c.range content).stop.offset content = Text.byteLength c.text := by
    rw [range, Position.ofOffset_byteLength h, Position.offset_behind h]
  refine ⟨hstart, hstop, ?_⟩
  obtain ⟨rest, hcontent⟩ := h
  rw [Range.bytesIn, hstart, hstop, ← hcontent]
  exact Utf8.extract_encode c.opened c.typed rest

end Cursor.OpenCall

/-! ### Every text -/

open Cursor (OpenCall)

/-- What is read from a text and offered behind it. -/
structure LiteralsOf (before : List Char) : Prop where
  /-- A literal is read if the text has the form, and what is read are its parts. -/
  read : ∀ literal, Cursor.openLiteral? before.reverse = some literal
    ↔ ∃ c : OpenCall, c.text = before ∧ c.literal = literal
  /-- The text has the form in one way only. -/
  unique : ∀ c c' : OpenCall, c.text = before → c'.text = before → c = c'
  /-- Behind a text of another form nothing is offered. -/
  unread : (∀ c : OpenCall, c.text ≠ before) → ∀ (ix : Index) symbols content,
    ix.literalItems symbols content before.reverse = none
  /-- Class names are offered exactly if the call with any literal in it encodes as a mock. -/
  offered : ∀ c : OpenCall, c.text = before → ∀ (ix : Index) symbols content contents others chain,
    contents ≠ "" →
      ((ix.literalItems symbols content before.reverse).isSome = true
        ↔ CallSite.IsMock ⟨c.signature symbols, .literal contents :: others, chain⟩)
  /-- Each offer replaces what is typed, in whatever document begins with the text. -/
  edited : ∀ c : OpenCall, c.text = before → ∀ (ix : Index) symbols content items,
    before <+: content → ix.literalItems symbols content before.reverse = some items →
      ∀ item ∈ items, ∃ edit, item.textEdit = some edit ∧
        edit.range.start.offset content = Text.byteLength c.opened ∧
        edit.range.stop.offset content = Text.byteLength before ∧
        edit.range.bytesIn content = Utf8.encode c.typed

/-- **Reading, offering and editing**: what is read from a text is its form, class names are offered
behind it if it becomes a mock, and they replace what is typed. -/
theorem literals_read (before : List Char) : LiteralsOf before where
  read _ := Cursor.openLiteral?_reverse_eq_some_iff
  unique c c' h h' := Cursor.OpenCall.text_injective (h.trans h'.symm)
  unread h ix symbols content := by
    cases hread : Cursor.openLiteral? before.reverse with
    | none => rw [Index.literalItems, hread]
    | some literal =>
        obtain ⟨c, hc, -⟩ := Cursor.openLiteral?_reverse_eq_some_iff.1 hread
        exact absurd hc (h c)
  offered c h ix symbols content contents others chain hne := by
    subst h
    exact c.isSome_literalItems_iff ix symbols content hne others chain
  edited c h ix symbols content items hcontent hitems item hitem := by
    subst h
    rw [c.literalItems_text] at hitems
    split at hitems
    · obtain rfl := Option.some.inj hitems
      obtain ⟨d, -, rfl⟩ := List.mem_map.1 hitem
      exact ⟨_, rfl, c.offsets_range hcontent⟩
    · cases hitems

end MockLens
