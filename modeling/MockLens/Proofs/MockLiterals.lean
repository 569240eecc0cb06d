/-
**Mock literals: where completion recognises a call that constructs a mock.**

The calls of a document are known from its tree, with the namespace and the class-like around each
of them.  Completion cannot wait for a tree, since the text is mostly half typed, and goes by the
text before the cursor and by the namespace that is stored for the document.  Here the two are held
against each other.  A call that constructs a mock is recognised when its text reads
`class::method(` in front of the quote, and nothing is recognised in front of any other text.  The
class has to stand for the facade in the namespace that is stored: a path from the root and an
imported name mean the same in every namespace, which leaves the bare name of the facade.

Main definitions:

* `Session.Typing` — a cursor behind a quote;
* `Analysis.StaticSite` — the place in a program that a call is recorded for;
* `Session.Recognised` — what completion recognises in a document.

Main results:

* `Analysis.exists_staticSite` — where the calls with the key of a mock come from;
* `Imports.qualify_eq_facade` — a name of the facade in another namespace;
* `Session.mockLiterals_recognised` — **completion recognises the calls that read so**, in every
  open document of every run;
* `Session.spaced_call_unrecognised` — a call that does not.
-/
import MockLens.Proofs.CallClassification
import MockLens.Proofs.Cursor
import MockLens.Proofs.StoredDocuments

set_option autoImplicit false

namespace MockLens

/-! ### The facade in another namespace -/

/-- The name of the facade stands for it in another namespace too, unless it is the bare name and
not imported. -/
theorem Imports.qualify_eq_facade {imports : Imports} {scope scope' : Option String} {name : String}
    (h : imports.qualify scope name = "\\Phake")
    (hbare : name = "Phake" → imports.find? "Phake" = none → scope' = scope) :
    imports.qualify scope' name = "\\Phake" := by
  unfold qualify at h ⊢
  by_cases hrooted : Text.startsWith "\\" name = true
  · rw [if_pos hrooted] at h ⊢
    exact h
  rw [if_neg hrooted] at h ⊢
  cases hfind : imports.find? (splitFirst name).1 with
  | some path =>
      rw [hfind] at h
      exact h
  | none =>
      rw [hfind] at h
      cases scope with
      | some ns =>
          -- a name in a namespace has a backslash inside, the facade has none
          have hlist : ns.toList ++ '\\' :: name.toList = "Phake".toList := by
            have htexts := congrArg String.toList h
            simpa using htexts
          have hslash : '\\' ∈ "Phake".toList := by
            rw [← hlist]
            simp
          exact absurd hslash (by decide)
      | none =>
          have hname : name = "Phake" := by
            have htexts := congrArg String.toList h
            refine String.toList_inj.1 ?_
            simpa using htexts
          have hfirst : (splitFirst "Phake").1 = "Phake" := by decide
          rw [hname, hfirst] at hfind
          rw [hbare hname hfind]
          exact h

namespace Analysis

variable {imports : Imports} {program : List Php.Stmt}

/-! ### Where the calls come from -/

/-- The call is the record of a static call that is visited in the state `st`. -/
def StaticSite (imports : Imports) (program : List Php.Stmt) (call : Call) (cls : Php.Expr)
    (method : Php.Identifier) (st : State) : Prop :=
  ∃ span arguments, Visited imports program (.staticCall span cls (.named method) arguments) st ∧
    callOf? imports (.staticCall span cls (.named method) arguments) st = some call

/-- What the key of a mock says about the place its call is recorded for. -/
theorem StaticSite.of_mock {call : Call} {cls : Php.Expr} {method : Php.Identifier} {st : State}
    (h : StaticSite imports program call cls method st) (hmock : call.kind? = some .mock) :
    namedClass? imports st cls = some (some "\\Phake") ∧
      method.text ∈ CallKind.mockConstruction.methods := by
  obtain ⟨span, arguments, hvisited, hcall⟩ := h
  obtain ⟨path, hcls, hkey⟩ := hvisited.keyOf hcall
  obtain ⟨rfl, hmethod, -⟩ := hkey.mock.1 hmock
  exact ⟨hcls, hmethod⟩

/-- **A call with the key of a mock comes from a static call.** -/
theorem exists_staticSite {call : Call}
    (hcall : call ∈ (ofStatements imports program).calls.toList)
    (hmock : call.kind? = some .mock) :
    ∃ cls method st, StaticSite imports program call cls method st := by
  obtain ⟨e, st, hvisited, hrecord⟩ := (mem_calls_iff program call).1 hcall
  have hkey := hvisited.keyOf hrecord
  unfold KeyOf at hkey
  split at hkey
  · -- the key of a member call is that of a stubbed method
    obtain ⟨-, hstub⟩ := hkey
    rcases hstub with ⟨-, hstub⟩ | ⟨-, hnone⟩
    · rw [Call.kind?, hstub] at hmock
      exact absurd hmock (by decide)
    · rw [Call.kind?, hnone] at hmock
      cases hmock
  · exact ⟨_, _, st, _, _, hvisited, hrecord⟩
  · cases hkey

/-- The class name and the method of the static call that a program begins with. -/
def firstStaticCall? : List Php.Stmt → Option (String × String)
  | .inert _ _ :: .evaluate _ [.staticCall _ (.name _ cls) (.named method) _] :: _ =>
    some (cls, method.text)
  | _ => none

/-- The static call that a program begins with is visited first. -/
theorem exists_firstSite {cls method : String}
    (h : firstStaticCall? program = some (cls, method)) {path : String}
    (hcls : State.classReference {} imports cls = some path) :
    ∃ call ∈ (ofStatements imports program).calls.toList, ∃ place name,
      StaticSite imports program call (.name place cls) name {} ∧ name.text = method := by
  unfold firstStaticCall? at h
  split at h
  · rename_i span place written name arguments rest
    obtain ⟨rfl, rfl⟩ := Prod.mk.inj (Option.some.inj h)
    have hnamed : namedClass? imports {} (.name place written) = some (some path) :=
      congrArg some hcls
    generalize hprogram : Php.Stmt.inert _ _ :: _ = program
    have hvisited : Visited imports program
        (.staticCall span (.name place written) (.named name) arguments) {} := by
      rw [← hprogram]
      refine .step (m := .stmts _) (List.mem_cons_of_mem _ List.mem_cons_self) ?_
      refine .step (m := .stmt _) List.mem_cons_self ?_
      refine .step (m := .parts _) List.mem_cons_self ?_
      exact .step List.mem_cons_self (.refl _ _)
    obtain ⟨call, hrecord⟩ : ∃ call, callOf? imports
        (.staticCall span (.name place written) (.named name) arguments) {} = some call :=
      ⟨_, by rw [callOf?, hnamed]⟩
    exact ⟨call, (mem_calls_iff program call).2 ⟨_, _, hvisited, hrecord⟩, place, name,
      ⟨span, arguments, hvisited, hrecord⟩, rfl⟩
  · cases h

end Analysis

namespace Session

/-! ### Cursors behind a quote -/

/-- The position is behind the quote that follows `head`, with nothing but the characters of a path
in between. -/
structure Typing (text : String) (head : List Char) (quote : Char) (typed : List Char)
    (position : Position) : Prop where
  split : ∃ tail, text.toList = head ++ quote :: typed ++ tail
  opening : Cursor.isOpening quote = true
  path : ∀ c ∈ typed, Cursor.isPathPart c = true
  offset : position.offset text.toList = Text.byteLength (head ++ quote :: typed)

/-- What is offered behind the quote: the class names that go with what is typed. -/
def classNames (s : Session) (text : String) (head : List Char) (quote : Char) (typed : List Char) :
    List CompletionItem :=
  s.index.classNameItems (String.ofList typed)
    ⟨Position.ofOffset text.toList (Text.byteLength (head ++ [quote])),
      Position.ofOffset text.toList (Text.byteLength (head ++ quote :: typed))⟩

section Cursors

variable {s : Session} {uri text : String} {head typed : List Char} {quote : Char}
  {position : Position}

/-- Behind a quote, completion answers with class names or not at all. -/
theorem completion_of_typing (h : s.Consistent) (hopen : s.texts[uri]? = some text)
    (hcursor : Typing text head quote typed position) :
    s.completion uri position = s.index.literalItems (symbolsOfText uri text) text.toList
      (head ++ quote :: typed).reverse := by
  obtain ⟨tail, htext⟩ := hcursor.split
  have hdocument : s.documents[uri]? = some (Document.ofText uri text) := by
    rw [h.documents, hopen]
    rfl
  have hbefore : Text.beforeByte (position.offset text.toList) text.toList
      = (head ++ quote :: typed).reverse := by
    rw [hcursor.offset, htext, Text.beforeByte_append]
  have hreceiver : Cursor.receiver? (head ++ quote :: typed).reverse = none :=
    Cursor.receiver?_eq_none hcursor.opening hcursor.path
  rw [completion, hopen]
  unfold Index.completions
  dsimp only
  have hsymbols : ((some (Document.ofText uri text)).map Document.symbols).getD {}
      = symbolsOfText uri text := rfl
  rw [hbefore, hreceiver, hdocument, hsymbols]
  cases s.index.literalItems (symbolsOfText uri text) text.toList _ <;> rfl

/-- In front of a text that does not read as a call, nothing is offered. -/
theorem completion_eq_none (h : s.Consistent) (hopen : s.texts[uri]? = some text)
    (hcursor : Typing text head quote typed position)
    (hunread : ∀ className method, ¬ Cursor.Callee head className method) :
    s.completion uri position = none := by
  rw [completion_of_typing h hopen hcursor, Index.literalItems]
  split
  · rename_i literal hliteral
    have hcallee := Cursor.callee_of_openLiteral? hcursor.opening hcursor.path hliteral
    exact absurd hcallee (hunread _ _)
  · rfl

/-- In front of a text that reads as a call of the facade that constructs a mock, the class names
are offered. -/
theorem completion_eq_classNames (h : s.Consistent) (hopen : s.texts[uri]? = some text)
    (hcursor : Typing text head quote typed position) {className method : String}
    (hcallee : Cursor.Callee head className method)
    (hclass : (symbolsOfText uri text).imports.qualify (symbolsOfText uri text).scope className
      = "\\Phake")
    (hmethod : method ∈ CallKind.mockConstruction.methods) :
    s.completion uri position = some (s.classNames text head quote typed) := by
  have hkind : CallKind.ofSignature (CallSite.staticSignature "\\Phake" method)
      = some .mockConstruction :=
    (CallKind.ofSignature_staticSignature_iff _ _ _).2 ⟨rfl, hmethod⟩
  rw [completion_of_typing h hopen hcursor, Index.literalItems,
    Cursor.openLiteral?_of_callee hcursor.opening hcursor.path hcallee]
  dsimp only
  rw [hclass, hkind, if_pos (by decide), Text.byteLength_reverse]
  rfl

end Cursors

/-! ### Recognised calls -/

/-- What completion recognises in an open document. -/
structure Recognised (s : Session) (uri text : String) : Prop where
  /-- Each call with the key of a mock is recorded for a static call of the facade. -/
  sites : ∀ call ∈ (Document.ofText uri text).analysis.calls.toList, call.kind? = some .mock →
    ∃ cls method st,
      Analysis.StaticSite (symbolsOfText uri text).imports (Php.parseFile text.toList) call
        cls method st ∧
      Analysis.namedClass? (symbolsOfText uri text).imports st cls = some (some "\\Phake")
  /-- If its class is a name, other than the bare name of the facade in another namespace than the
  one that is stored, and the text before a quote reads as a call of that class and method, the
  class names are offered behind the quote, so behind the one that opens its literal. -/
  offered : ∀ call ∈ (Document.ofText uri text).analysis.calls.toList, call.kind? = some .mock →
    ∀ place className method st,
      Analysis.StaticSite (symbolsOfText uri text).imports (Php.parseFile text.toList) call
        (.name place className) method st →
      st.classReference (symbolsOfText uri text).imports className
        = some ((symbolsOfText uri text).imports.qualify st.scope className) →
      (className = "Phake" → (symbolsOfText uri text).imports.find? "Phake" = none →
        (symbolsOfText uri text).scope = st.scope) →
      ∀ head quote typed position, Typing text head quote typed position →
        Cursor.Callee head className method.text →
          s.completion uri position = some (s.classNames text head quote typed)
  /-- Behind a quote in front of which no call is read, nothing is offered. -/
  unread : ∀ head quote typed position, Typing text head quote typed position →
    (∀ className method, ¬ Cursor.Callee head className method) →
      s.completion uri position = none

/-- **Completion recognises the calls that read as such**, in every open document of every run. -/
theorem mockLiterals_recognised (start : Beginning) (events : List Event) (uri text : String)
    (hopen : (start.session.after events).texts[uri]? = some text) :
    Recognised (start.session.after events) uri text := by
  have hconsistent := (consistent_beginning start).after events
  refine ⟨fun call hcall hmock => ?_, ?_, ?_⟩
  · obtain ⟨cls, method, st, hsite⟩ := Analysis.exists_staticSite hcall hmock
    exact ⟨cls, method, st, hsite, (hsite.of_mock hmock).1⟩
  · intro call hcall hmock place className method st hsite hname hbare head quote typed position
      hcursor hcallee
    obtain ⟨hcls, hmethod⟩ := hsite.of_mock hmock
    have hclass : (symbolsOfText uri text).imports.qualify st.scope className = "\\Phake" := by
      have hreference := Option.some.inj hcls
      rw [hname] at hreference
      exact Option.some.inj hreference
    exact completion_eq_classNames hconsistent hopen hcursor hcallee
      (Imports.qualify_eq_facade hclass hbare) hmethod
  · intro head quote typed position hcursor hunread
    exact completion_eq_none hconsistent hopen hcursor hunread

/-- A call in whose parenthesis blanks and a line end stand before the literal. -/
theorem mockLiterals_recognised_blanks :
    let uri := "file:///t.php"
    let text := "<?php Phake::mock (\n 'User');"
    let s := Beginning.blank.session.after [.edited (.opened uri text)]
    s.texts[uri]? = some text ∧
      (∃ call ∈ (Document.ofText uri text).analysis.calls.toList, call.kind? = some .mock) ∧
      s.completion uri ⟨1, 4⟩
        = some (s.classNames text "<?php Phake::mock (\n ".toList '\'' "Us".toList) := by
  intro uri text s
  have hopen : s.texts[uri]? = some text := by decide +kernel
  obtain ⟨-, hoffered, -⟩ := mockLiterals_recognised .blank [.edited (.opened uri text)] uri text
    hopen
  have hcursor : Typing text "<?php Phake::mock (\n ".toList '\'' "Us".toList ⟨1, 4⟩ :=
    ⟨⟨"er');".toList, by decide +kernel⟩, rfl, List.all_eq_true.1 rfl, by decide +kernel⟩
  have hcallee : Cursor.Callee "<?php Phake::mock (\n ".toList "Phake" "mock" := by
    have hcallee : Cursor.Callee ("<?php ".toList ++ "Phake".toList ++ ':' :: ':' :: "mock".toList
        ++ [' '] ++ '(' :: ['\n', ' ']) (String.ofList "Phake".toList)
        (String.ofList "mock".toList) :=
      .intro ⟨by decide, List.all_eq_true.1 rfl, fun c hc => by
          obtain rfl : ' ' = c := by simpa using hc
          rfl⟩
        ⟨by decide, List.all_eq_true.1 rfl⟩ (List.all_eq_true.1 rfl) (List.all_eq_true.1 rfl)
    exact hcallee
  obtain ⟨hfirst, hmock, himports, hscope⟩ :
      Analysis.firstStaticCall? (Php.parseFile text.toList) = some ("Phake", "mock") ∧
      (∀ call ∈ (Document.ofText uri text).analysis.calls.toList, call.kind? = some .mock) ∧
      (symbolsOfText uri text).imports = {} ∧ (symbolsOfText uri text).scope = none := by
    decide +kernel
  have hcls : Analysis.State.classReference {} (symbolsOfText uri text).imports "Phake"
      = some ((symbolsOfText uri text).imports.qualify none "Phake") := by
    rw [himports]
    decide
  obtain ⟨call, hcall, place, method, hsite, hmethod⟩ := Analysis.exists_firstSite hfirst hcls
  refine ⟨hopen, ⟨call, hcall, hmock call hcall⟩, ?_⟩
  exact hoffered call hcall (hmock call hcall) place "Phake" method {} hsite hcls
    (fun _ _ => hscope) _ _ _ _ hcursor (hmethod ▸ hcallee)

/-- **A call that is not recognised**: blanks around the colons keep its text from reading as a
call, though it is on record as one that constructs a mock. -/
theorem spaced_call_unrecognised :
    let uri := "file:///t.php"
    let text := "<?php class User \x7b\x7d Phake :: mock('User');"
    let s := Beginning.blank.session.after [.edited (.opened uri text)]
    (s.analysisOf uri).map (fun a => a.calls.toList.map fun c => (c.kind?, c.literalSpan))
        = some [(some .mock, some ⟨35, 39⟩)] ∧
      Typing text "<?php class User \x7b\x7d Phake :: mock(".toList '\'' "Us".toList ⟨0, 37⟩ ∧
      s.completion uri ⟨0, 37⟩ = none := by
  intro uri text s
  have hcursor : Typing text "<?php class User \x7b\x7d Phake :: mock(".toList '\'' "Us".toList
      ⟨0, 37⟩ :=
    ⟨⟨"er');".toList, by decide +kernel⟩, rfl, List.all_eq_true.1 rfl, by decide +kernel⟩
  exact ⟨by decide +kernel, hcursor, by decide +kernel⟩

end Session

end MockLens
