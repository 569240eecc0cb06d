/-
**The text before a cursor, read forwards.**

Completion reads the text before a cursor backwards (`MockLens/Completion/Cursor.lean`): runs of
characters, blanks between them, and the few marks that hold a call together.  This module says
which texts are read so, and what is read from them.  A run ends where a character of another kind
stands, so a text can be read in one way only, and reading it backwards finds the parts it was put
together from.

Main definitions:

* `Cursor.Callee` — a text that ends in `class::method(`;
* `Cursor.isOpening` — the quotes.

Main results:

* `Cursor.isWord_iff`, `Cursor.isPathPart_iff`, `Cursor.isBlank_iff` — the characters of a word, of
  a path and of blanks, one by one;
* `Cursor.openLiteral?_eq_some_iff` — what is read behind a quote;
* `Cursor.receiver?_eq_none` — behind a quote no member is being typed.
-/
import MockLens.Completion.Cursor
import MockLens.Proofs.Text

set_option autoImplicit false

namespace MockLens

namespace Cursor

open Text (IsRun)

/-- A quote that opens a literal. -/
def isOpening (c : Char) : Bool := c == '\'' || c == '"'

/-- The text ends in `cls::method(`.  Class and method adjoin the colons; blanks may stand on either
side of the parenthesis. -/
inductive Callee : List Char → String → String → Prop
  | intro {before cls method outer inner : List Char}
      (hcls : cls ≠ [] ∧ IsRun isPathPart cls before.reverse)
      (hmethod : method ≠ [] ∧ ∀ c ∈ method, isWord c = true)
      (houter : ∀ c ∈ outer, Text.isBlank c = true)
      (hinner : ∀ c ∈ inner, Text.isBlank c = true) :
      Callee (before ++ cls ++ ':' :: ':' :: method ++ outer ++ '(' :: inner)
        (String.ofList cls) (String.ofList method)

/-! ### Characters -/

theorem isAlphanum_iff {c : Char} : c.isAlphanum = true ↔
    ('a' ≤ c ∧ c ≤ 'z') ∨ ('A' ≤ c ∧ c ≤ 'Z') ∨ ('0' ≤ c ∧ c ≤ '9') := by
  have hlower : c.isLower = true ↔ 'a' ≤ c ∧ c ≤ 'z' :=
    Bool.and_eq_true_iff.trans (and_congr decide_eq_true_iff decide_eq_true_iff)
  have hupper : c.isUpper = true ↔ 'A' ≤ c ∧ c ≤ 'Z' := decide_eq_true_iff
  have hdigit : c.isDigit = true ↔ '0' ≤ c ∧ c ≤ '9' :=
    Bool.and_eq_true_iff.trans (and_congr decide_eq_true_iff decide_eq_true_iff)
  change ((c.isUpper || c.isLower) || c.isDigit) = true ↔ _
  rw [Bool.or_eq_true, Bool.or_eq_true, hlower, hupper, hdigit, or_assoc, or_left_comm]

/-- The characters of a word: letters and digits of ASCII, and the underscore. -/
theorem isWord_iff {c : Char} : isWord c = true ↔
    ('a' ≤ c ∧ c ≤ 'z') ∨ ('A' ≤ c ∧ c ≤ 'Z') ∨ ('0' ≤ c ∧ c ≤ '9') ∨ c = '_' := by
  rw [isWord, Bool.or_eq_true, isAlphanum_iff, beq_iff_eq, or_assoc, or_assoc]

/-- The characters of a path: those of a word, and the backslash. -/
theorem isPathPart_iff {c : Char} : isPathPart c = true ↔ isWord c = true ∨ c = '\\' := by
  rw [isPathPart, Bool.or_eq_true, beq_iff_eq]

/-- The blanks of ASCII. -/
theorem isBlank_iff {c : Char} :
    Text.isBlank c = true ↔ c = ' ' ∨ c = '\t' ∨ c = '\n' ∨ c = '\r' ∨ c = '\x0c' := by
  simp [Text.isBlank, or_assoc]

theorem isPathPart_of_isWord {c : Char} (h : isWord c = true) : isPathPart c = true := by
  rw [isPathPart, h]
  rfl

theorem isPathPart_quote {c : Char} (h : isOpening c = true) : isPathPart c = false := by
  obtain rfl | rfl : c = '\'' ∨ c = '"' := by simpa [isOpening] using h
  · decide
  · decide

theorem isBlank_of_isWord {c : Char} (h : isWord c = true) : Text.isBlank c = false := by
  rw [← Bool.not_eq_true, isBlank_iff]
  rintro (rfl | rfl | rfl | rfl | rfl)
  all_goals exact absurd h (by decide)

/-! ### Runs, read backwards -/

theorem isRun_reverse {p : Char → Bool} {run rest : List Char} (hrun : ∀ c ∈ run, p c = true)
    (hrest : ∀ c ∈ rest.head?, p c = false) : IsRun p run.reverse rest :=
  ⟨fun c hc => hrun c (List.mem_reverse.1 hc), hrest⟩

/-- A word does not begin with a blank. -/
theorem head_not_isBlank {word rest : List Char} (hne : word ≠ [])
    (hword : ∀ c ∈ word, isWord c = true) :
    ∀ c ∈ (word.reverse ++ rest).head?, Text.isBlank c = false := by
  intro c hc
  have hnonempty : word.reverse ≠ [] := by simpa using hne
  obtain ⟨d, ds, hd⟩ := List.exists_cons_of_ne_nil hnonempty
  rw [hd] at hc
  obtain rfl : d = c := by simpa using hc
  refine isBlank_of_isWord (hword d (List.mem_reverse.1 ?_))
  rw [hd]
  exact List.mem_cons_self

/-! ### Calls -/

theorem forwards_reverse (cs : List Char) : forwards cs.reverse = String.ofList cs := by
  rw [forwards, List.reverse_reverse]

/-- A call is read in front of its parenthesis. -/
theorem staticCall?_append {before cls method : List Char} {start : Nat} {typed : String}
    (hcls : cls ≠ [] ∧ IsRun isPathPart cls before.reverse)
    (hmethod : method ≠ [] ∧ ∀ c ∈ method, isWord c = true) :
    staticCall? start typed (method.reverse ++ ':' :: ':' :: (cls.reverse ++ before.reverse))
      = some ⟨String.ofList cls, String.ofList method, start, typed⟩ := by
  have hword : IsRun isWord method.reverse (':' :: ':' :: (cls.reverse ++ before.reverse)) :=
    isRun_reverse hmethod.2 (by simp [isWord])
  have hpath : IsRun isPathPart cls.reverse before.reverse :=
    isRun_reverse hcls.2.run hcls.2.rest
  unfold staticCall?
  rw [hword.takeWhile_eq, hword.dropWhile_eq]
  change (if (method.reverse.isEmpty
      || ((cls.reverse ++ before.reverse).takeWhile isPathPart).isEmpty) = true then none
    else some (OpenLiteral.mk (forwards ((cls.reverse ++ before.reverse).takeWhile isPathPart))
      (forwards method.reverse) start typed)) = _
  rw [hpath.takeWhile_eq, forwards_reverse, forwards_reverse]
  simp [hcls.1, hmethod.1]

/-- What is read as a call was written as one. -/
theorem exists_of_staticCall? {start : Nat} {typed : String} {before : List Char}
    {literal : OpenLiteral} (h : staticCall? start typed before = some literal) :
    ∃ front cls method : List Char,
      before = method.reverse ++ ':' :: ':' :: (cls.reverse ++ front.reverse) ∧
      (cls ≠ [] ∧ IsRun isPathPart cls front.reverse) ∧
      (method ≠ [] ∧ ∀ c ∈ method, isWord c = true) ∧
      literal = ⟨String.ofList cls, String.ofList method, start, typed⟩ := by
  have hsplit := List.takeWhile_append_dropWhile (p := isWord) (l := before)
  have hword := Text.isRun_takeWhile isWord before
  unfold staticCall? at h
  split at h
  · rename_i rest hdrop
    have hpath := Text.isRun_takeWhile isPathPart rest
    have hrest := List.takeWhile_append_dropWhile (p := isPathPart) (l := rest)
    dsimp only at h
    split at h
    · cases h
    · rename_i hnonempty
      obtain ⟨hmethod, hcls⟩ : before.takeWhile isWord ≠ [] ∧ rest.takeWhile isPathPart ≠ [] := by
        simpa using hnonempty
      refine ⟨(rest.dropWhile isPathPart).reverse, (rest.takeWhile isPathPart).reverse,
        (before.takeWhile isWord).reverse, ?_, ⟨by simpa using hcls, ?_⟩,
        ⟨by simpa using hmethod, fun c hc => hword.run c (List.mem_reverse.1 hc)⟩,
        (Option.some.inj h).symm⟩
      · rw [List.reverse_reverse, List.reverse_reverse, List.reverse_reverse, hrest, ← hdrop,
          hsplit]
      · rw [List.reverse_reverse]
        exact isRun_reverse hpath.run hpath.rest
  · cases h

/-! ### Literals -/

section Literals

variable {head typed : List Char} {quote : Char}

theorem isRun_typed (hquote : isOpening quote = true) (htyped : ∀ c ∈ typed, isPathPart c = true) :
    IsRun isPathPart typed.reverse (quote :: head.reverse) := by
  refine isRun_reverse htyped fun c hc => ?_
  obtain rfl : quote = c := by simpa using hc
  exact isPathPart_quote hquote

/-- Behind a quote, what is read depends on what stands before the quote. -/
theorem openLiteral?_append (hquote : isOpening quote = true)
    (htyped : ∀ c ∈ typed, isPathPart c = true) :
    openLiteral? (head ++ quote :: typed).reverse =
      match head.reverse.dropWhile Text.isBlank with
      | '(' :: callee =>
        staticCall? (Text.byteLength (head ++ [quote])) (String.ofList typed)
          (callee.dropWhile Text.isBlank)
      | _ => none := by
  have hrun : IsRun isPathPart typed.reverse (quote :: head.reverse) := isRun_typed hquote htyped
  have hreverse : (head ++ quote :: typed).reverse = typed.reverse ++ quote :: head.reverse := by
    simp
  have hlength : Text.byteLength (quote :: head.reverse) = Text.byteLength (head ++ [quote]) := by
    simp [Nat.add_comm]
  rw [hreverse, openLiteral?, hrun.takeWhile_eq, hrun.dropWhile_eq, ← hlength,
    ← forwards_reverse typed]
  exact if_pos hquote

theorem openLiteral?_of_callee (hquote : isOpening quote = true)
    (htyped : ∀ c ∈ typed, isPathPart c = true) {className method : String}
    (h : Callee head className method) :
    openLiteral? (head ++ quote :: typed).reverse
      = some ⟨className, method, Text.byteLength (head ++ [quote]), String.ofList typed⟩ := by
  rw [openLiteral?_append hquote htyped]
  cases h with
  | @intro before cls method outer inner hcls hmethod houter hinner =>
      have hreverse : (before ++ cls ++ ':' :: ':' :: method ++ outer ++ '(' :: inner).reverse
          = inner.reverse ++ '(' :: (outer.reverse ++
              (method.reverse ++ ':' :: ':' :: (cls.reverse ++ before.reverse))) := by
        simp
      have hinside : IsRun Text.isBlank inner.reverse ('(' :: (outer.reverse ++
          (method.reverse ++ ':' :: ':' :: (cls.reverse ++ before.reverse)))) :=
        isRun_reverse hinner (by simp [Text.isBlank])
      have houtside : IsRun Text.isBlank outer.reverse
          (method.reverse ++ ':' :: ':' :: (cls.reverse ++ before.reverse)) :=
        isRun_reverse houter (head_not_isBlank hmethod.1 hmethod.2)
      rw [hreverse, hinside.dropWhile_eq]
      change staticCall? _ _ (List.dropWhile Text.isBlank (outer.reverse ++
        (method.reverse ++ ':' :: ':' :: (cls.reverse ++ before.reverse)))) = _
      rw [houtside.dropWhile_eq]
      exact staticCall?_append hcls hmethod

theorem callee_of_openLiteral? (hquote : isOpening quote = true)
    (htyped : ∀ c ∈ typed, isPathPart c = true) {literal : OpenLiteral}
    (h : openLiteral? (head ++ quote :: typed).reverse = some literal) :
    Callee head literal.className literal.method := by
  rw [openLiteral?_append hquote htyped] at h
  have hinside := Text.isRun_takeWhile Text.isBlank head.reverse
  have hhead := List.takeWhile_append_dropWhile (p := Text.isBlank) (l := head.reverse)
  split at h
  · rename_i callee hdrop
    have houtside := Text.isRun_takeWhile Text.isBlank callee
    have hcallee := List.takeWhile_append_dropWhile (p := Text.isBlank) (l := callee)
    obtain ⟨front, cls, method, hfront, hcls, hmethod, rfl⟩ := exists_of_staticCall? h
    have hsplit : head = front ++ cls ++ ':' :: ':' :: method
        ++ (callee.takeWhile Text.isBlank).reverse
        ++ '(' :: (head.reverse.takeWhile Text.isBlank).reverse := by
      rw [hdrop, ← hcallee, hfront] at hhead
      have hforwards := congrArg List.reverse hhead
      simpa using hforwards.symm
    rw [hsplit]
    exact .intro hcls hmethod (fun c hc => houtside.run c (List.mem_reverse.1 hc))
      (fun c hc => hinside.run c (List.mem_reverse.1 hc))
  · cases h

/-- **What is read behind a quote**: a literal exactly behind the call of a static method. -/
theorem openLiteral?_eq_some_iff (hquote : isOpening quote = true)
    (htyped : ∀ c ∈ typed, isPathPart c = true) {literal : OpenLiteral} :
    openLiteral? (head ++ quote :: typed).reverse = some literal ↔
      Callee head literal.className literal.method ∧
        literal.start = Text.byteLength (head ++ [quote]) ∧
        literal.typed = String.ofList typed := by
  constructor
  · intro h
    have hcallee := callee_of_openLiteral? hquote htyped h
    rw [openLiteral?_of_callee hquote htyped hcallee] at h
    have hread := Option.some.inj h
    exact ⟨hcallee, congrArg OpenLiteral.start hread.symm, congrArg OpenLiteral.typed hread.symm⟩
  · rintro ⟨hcallee, hstart, htext⟩
    rw [openLiteral?_of_callee hquote htyped hcallee, ← hstart, ← htext]

/-- Behind a quote no member is being typed. -/
theorem receiver?_eq_none (hquote : isOpening quote = true)
    (htyped : ∀ c ∈ typed, isPathPart c = true) :
    receiver? (head ++ quote :: typed).reverse = none := by
  -- the word at the cursor ends at a backslash or at the quote, and neither ends an arrow
  have hstop : ∀ run : List Char, (∀ c ∈ run, isPathPart c = true) → ∀ rest,
      ∃ stop more, (run ++ quote :: rest).dropWhile isWord = stop :: more ∧
        (stop = '\\' ∨ stop = quote) := by
    intro run hrun rest
    induction run with
    | nil =>
        have hword : isWord quote = false := by
          rw [← Bool.not_eq_true]
          intro hword
          have hpart := isPathPart_of_isWord hword
          rw [isPathPart_quote hquote] at hpart
          cases hpart
        exact ⟨quote, rest, by simp [hword], .inr rfl⟩
    | cons c run ih =>
        obtain ⟨hc, hrun⟩ := List.forall_mem_cons.1 hrun
        rcases isPathPart_iff.1 hc with hword | rfl
        · obtain ⟨stop, more, hdrop, hkind⟩ := ih hrun
          exact ⟨stop, more, by simp [hword, hdrop], hkind⟩
        · exact ⟨'\\', run ++ quote :: rest, by simp [isWord], .inl rfl⟩
  obtain ⟨stop, more, hdrop, hkind⟩ := hstop typed.reverse
    (fun c hc => htyped c (List.mem_reverse.1 hc)) head.reverse
  have hreverse : (head ++ quote :: typed).reverse = typed.reverse ++ quote :: head.reverse := by
    simp
  obtain ⟨hblank, harrow⟩ : Text.isBlank stop = false ∧ stop ≠ '>' := by
    obtain rfl | rfl : quote = '\'' ∨ quote = '"' := by simpa [isOpening] using hquote
    all_goals
      rcases hkind with rfl | rfl
      all_goals exact ⟨by decide, by decide⟩
  rw [receiver?, hreverse, hdrop, List.dropWhile_cons, hblank]
  split
  · rename_i h
    exact absurd (List.cons.inj h).1 harrow
  · rename_i h
    exact absurd (List.cons.inj h).1 harrow
  · rfl

end Literals

end Cursor

end MockLens
