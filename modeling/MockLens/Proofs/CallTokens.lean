/-
**Call tokens: the tokens behind the record of a call.**

The record of a call says where its method name and the contents of its literal stand, and the
editor asks for both with the offset of a cursor.  Offsets alone do not tell two records apart, and
the spans of two calls may lie one in the other.  But the name of every recorded call is a word of
the text and its literal is a quoted string of it (`MockLens/Proofs/ParsedLeaves.lean`), and tokens
that share a byte are the same (`MockLens/Proofs/TokenOrder.lean`).  So all calls with a literal
around one offset have the same literal, and no offset is both at a method name and in a literal.

Main definitions:

* `Analysis.Node.EachLeaf` — every leaf of a node of the walk is as a predicate says;
* `Php.Token.inside` — what stands between the quotes of a token;
* `Call.NamedBy`, `Call.Mocks` — a call has its name from a word, and its key and its literal from
  a quoted string.

Main results:

* `Analysis.Visited.eachLeaf` — the leaves of what is visited are leaves of the program;
* `Document.exists_namedBy`, `Document.exists_mocks` — the tokens behind the record of a call;
* `Document.eq_of_mocks` — **one offset is in one literal.**
-/
import MockLens.Definition
import MockLens.Document
import MockLens.Proofs.CallClassification
import MockLens.Proofs.ParsedLeaves
import MockLens.Proofs.TokenOrder

set_option autoImplicit false

namespace MockLens

/-! ### Quoted tokens -/

theorem Span.contains_iff {s : Span} {offset : Nat} :
    s.contains offset = true ↔ s.start ≤ offset ∧ offset ≤ s.stop := by
  rw [contains, Bool.and_eq_true, decide_eq_true_eq, decide_eq_true_eq]

namespace Php

/-- What stands between the quotes of a token: its bytes but the first and the last. -/
def Token.inside (t : Token) : Span := ⟨t.span.start + 1, t.span.stop - 1⟩

/-- An offset between the quotes has bytes of the token before and behind it. -/
theorem Token.contains_inside_iff {t : Token} {offset : Nat} :
    t.inside.contains offset = true ↔ t.span.start < offset ∧ offset < t.span.stop := by
  rw [Span.contains_iff]
  show t.span.start + 1 ≤ offset ∧ offset ≤ t.span.stop - 1 ↔ _
  omega

theorem Token.contains_of_inside {t : Token} {offset : Nat}
    (h : t.inside.contains offset = true) : t.span.contains offset = true := by
  rw [contains_inside_iff] at h
  rw [Span.contains_iff]
  omega

/-- The value of a literal is empty unless there are two quotes. -/
theorem Quoted.two_le_length {literal contents : String} (h : Quoted.value literal = some contents)
    (hne : contents ≠ "") : 2 ≤ literal.toList.length := by
  by_contra hshort
  have hunits : ∀ cs : List Char, cs.length ≤ 1 → Quoted.units cs = [] := by
    intro cs hcs
    rcases cs with _ | ⟨c, _ | ⟨d, cs⟩⟩
    · rfl
    · unfold Quoted.units
      split <;> simp_all [unescapeSingle, unescapeDouble]
    · simp at hcs
  have hempty : Quoted.value literal = some "" := by
    unfold Quoted.value
    have hnone : StringUnit.text [] = some "" := by decide
    split
    · rename_i cs hliteral
      rw [hliteral, List.length_cons] at hshort
      rw [hunits cs (by omega), hnone]
    · rename_i cs hliteral
      rw [hliteral, List.length_cons] at hshort
      rw [hunits cs (by omega), hnone]
    · rw [hunits _ (by omega), hnone]
  exact hne (Option.some.inj (h.symm.trans hempty))

end Php

namespace Analysis

open Php (Expr Stmt Member Leaf EachLeaf Token tokenize)

/-! ### Leaves of what is visited -/

/-- Every leaf of what is walked through is as `G` says. -/
def Node.EachLeaf (G : Leaf → Prop) : Node → Prop
  | .expr e => Php.EachLeaf G e
  | .parts es => Php.EachLeaf G es
  | .arguments es => Php.EachLeaf G es
  | .stmt s => Php.EachLeaf G s
  | .stmts ss => Php.EachLeaf G ss

section Visits

variable {G : Leaf → Prop} {imports : Imports}

theorem eachLeaf_belowMembers {path : Option String} {ms : List Member} (h : Php.EachLeaf G ms) :
    ∀ st, ∀ v ∈ belowMembers imports path ms st, v.1.EachLeaf G := by
  induction ms with
  | nil => simp [belowMembers]
  | cons m ms ih =>
      rw [Php.eachLeaf_cons] at h
      intro st v hv
      cases m with
      | method name isStatic parameters body =>
          rw [belowMembers, List.mem_cons] at hv
          rcases hv with rfl | hv
          · exact Php.eachLeafOfStmts_iff.1 h.1.2
          · exact ih h.2 _ v hv
      | property _ _ => exact ih h.2 _ v hv
      | other => exact ih h.2 _ v hv

theorem eachLeaf_belowExpr {e : Expr} (h : e.EachLeaf G) (st : State) :
    ∀ v ∈ belowExpr imports e st, v.1.EachLeaf G := by
  cases e with
  | newAnonymous _ arguments members =>
      intro v hv
      rw [belowExpr, List.mem_cons] at hv
      obtain ⟨harguments, hmembers⟩ := h
      rcases hv with rfl | hv
      · exact Php.eachLeafOfExprs_iff.1 harguments
      · exact eachLeaf_belowMembers (Php.eachLeafOfMembers_iff.1 hmembers) _ v hv
  | assign _ plain target value =>
      rw [belowExpr]
      split <;> grind [Node.EachLeaf]
  | staticCall _ cls _ arguments =>
      rw [belowExpr]
      split <;> grind [Node.EachLeaf]
  | _ => grind [belowExpr, Node.EachLeaf]

theorem eachLeaf_belowStmt {s : Stmt} (h : s.EachLeaf G) (st : State) :
    ∀ v ∈ belowStmt imports s st, v.1.EachLeaf G := by
  cases s with
  | classLike kind name members =>
      intro v hv
      have hmembers := Php.eachLeafOfMembers_iff.1 h.2
      cases kind with
      | interface => simp [belowStmt] at hv
      | _ => exact eachLeaf_belowMembers hmembers _ v hv
  | _ => grind [belowStmt, Node.EachLeaf]

/-- The leaves of what is visited directly are leaves of what it is visited for. -/
theorem Node.eachLeaf_below {n : Node} (h : n.EachLeaf G) (st : State) :
    ∀ v ∈ n.below imports st, v.1.EachLeaf G := by
  cases n with
  | expr e => exact eachLeaf_belowExpr h st
  | stmt s => exact eachLeaf_belowStmt h st
  | parts es => cases es <;> grind [below, EachLeaf]
  | stmts ss => cases ss <;> grind [below, EachLeaf]
  | arguments es =>
      cases es with
      | nil => simp [below]
      | cons e es => cases e <;> grind [below, EachLeaf]

theorem Reaches.eachLeaf {n m : Node} {st st' : State} (h : Reaches imports n st m st')
    (hn : n.EachLeaf G) : m.EachLeaf G := by
  induction h with
  | refl => exact hn
  | step hbelow _ ih => exact ih (Node.eachLeaf_below hn _ _ hbelow)

/-- **The leaves of what is visited are leaves of the program.** -/
theorem Visited.eachLeaf {program : List Stmt} {e : Expr} {st : State}
    (h : Visited imports program e st) (hprogram : Php.EachLeaf G program) : e.EachLeaf G :=
  Reaches.eachLeaf h (n := .stmts program) hprogram

end Visits

end Analysis

/-! ### Records -/

/-- A call has its name, with the place of it, from a word. -/
structure Call.NamedBy (call : Call) (t : Php.Token) : Prop where
  word : Php.Parser.isWord t.kind = true
  method : call.method = t.text
  place : call.nameSpan = t.span

/-- A call has the key of a mock of the names that are the value of a quoted string, and has for its
literal what stands between the quotes. -/
structure Call.Mocks (call : Call) (t : Php.Token) (names : String) : Prop where
  quoted : t.kind = .quoted
  value : Php.Quoted.value t.text = some names
  place : call.literalSpan = some t.inside
  key : ∃ signature ∈ CallKind.mockSignatures,
    call.key = some (VirtualType.toKey (.mock signature names))

namespace Php

theorem Token.leaf?_eq_name_iff {t : Token} {name : Identifier} :
    t.leaf? = some (.name name) ↔
      t.kind ≠ .quoted ∧ Parser.isWord t.kind = true ∧ name = ⟨t.text, t.span⟩ := by
  unfold Token.leaf?
  split
  · simp [*]
  · split
    · simp [*, eq_comm (a := name)]
    · simp [*]

theorem Token.leaf?_eq_string_iff {t : Token} {span : Span} {value : Option String} :
    t.leaf? = some (.string span value) ↔
      t.kind = .quoted ∧ t.span = span ∧ Quoted.value t.text = value := by
  unfold Token.leaf?
  split
  · simp [*]
  · split
    · simp [*]
    · simp [*]

/-- A token around an offset between the quotes of another one is that one. -/
theorem eq_of_inside {content : List Char} {t u : Token} {offset : Nat}
    (ht : t ∈ tokenize content) (hu : u ∈ tokenize content) (hto : t.span.contains offset = true)
    (huo : u.inside.contains offset = true) : t = u := by
  rw [Span.contains_iff] at hto
  rw [Token.contains_inside_iff] at huo
  exact eq_of_mem_tokenize ht hu (by omega) (by omega)

end Php

namespace Document

open Php (tokenize)

variable {uri text : String} {call : Call}

/-- What is recorded has its leaves from the text. -/
theorem exists_visited (hcall : call ∈ (ofText uri text).analysis.calls.toList) :
    ∃ e st, Analysis.Visited (symbolsOfText uri text).imports (Php.parseFile text.toList) e st ∧
      Analysis.callOf? (symbolsOfText uri text).imports e st = some call ∧
      e.EachLeaf (Php.Leaf.IsFrom (tokenize text.toList)) := by
  obtain ⟨e, st, hvisited, hrecord⟩ := (Analysis.mem_calls_iff _ call).1 hcall
  exact ⟨e, st, hvisited, hrecord, hvisited.eachLeaf (Php.eachLeaf_parseFile text.toList)⟩

/-- **The name of a recorded call is a word of the text.** -/
theorem exists_namedBy (hcall : call ∈ (ofText uri text).analysis.calls.toList) :
    ∃ t ∈ tokenize text.toList, call.NamedBy t := by
  obtain ⟨e, st, -, hrecord, hleaves⟩ := exists_visited hcall
  have hname : ∀ name : Php.Identifier, Php.Leaf.IsFrom (tokenize text.toList) (.name name) →
      call.method = name.text → call.nameSpan = name.span →
        ∃ t ∈ tokenize text.toList, call.NamedBy t := by
    rintro name ⟨t, ht, hleaf⟩ hmethod hplace
    obtain ⟨-, hword, rfl⟩ := Php.Token.leaf?_eq_name_iff.1 hleaf
    exact ⟨t, ht, hword, hmethod, hplace⟩
  unfold Analysis.callOf? at hrecord
  split at hrecord
  · rename_i name _
    split at hrecord
    · obtain rfl := Option.some.inj hrecord
      exact hname name hleaves.2.1 rfl rfl
    · cases hrecord
  · rename_i name _
    obtain rfl := Option.some.inj hrecord
    exact hname name hleaves.2.1 rfl rfl
  · cases hrecord

/-- **The literal of a recorded mock is a quoted string of the text.** -/
theorem exists_mocks (hcall : call ∈ (ofText uri text).analysis.calls.toList)
    (hmock : call.kind? = some .mock) :
    ∃ t ∈ tokenize text.toList, ∃ names, call.Mocks t names := by
  obtain ⟨e, st, hvisited, hrecord, hleaves⟩ := exists_visited hcall
  have hkey := hvisited.keyOf hrecord
  unfold Analysis.KeyOf at hkey
  split at hkey
  · -- the key of a member call is that of a stubbed method
    obtain ⟨-, hstub⟩ := hkey
    rcases hstub with ⟨-, hstub⟩ | ⟨-, hnone⟩
    · rw [Call.kind?, hstub] at hmock
      exact absurd hmock (by decide)
    · rw [Call.kind?, hnone] at hmock
      cases hmock
  · rename_i span cls name arguments
    obtain ⟨path, hcls, hfacade⟩ := hkey
    obtain ⟨rfl, hmethod, s, names, rest, rfl, hne⟩ := hfacade.mock.1 hmock
    rw [Analysis.callOf?, hcls] at hrecord
    obtain rfl := Option.some.inj hrecord
    -- the first argument is a string, so it comes from a quoted token
    obtain ⟨t, ht, hleaf⟩ := hleaves.2.2.1
    obtain ⟨hquoted, rfl, hvalue⟩ := Php.Token.leaf?_eq_string_iff.1 hleaf
    have hroom : t.span.start + 2 ≤ t.span.stop := by
      have hlength := Php.Quoted.two_le_length hvalue hne
      have hbytes := Text.length_le_byteLength t.text.toList
      rw [Php.isMeasured_of_mem_tokenize ht]
      omega
    have hkind : CallKind.ofSignature (CallSite.staticSignature "\\Phake" name.text)
        = some .mockConstruction :=
      (CallKind.ofSignature_staticSignature_iff _ _ _).2 ⟨rfl, hmethod⟩
    refine ⟨t, ht, names, hquoted, hvalue, ?_, _, CallKind.mem_of_ofSignature hkind, ?_⟩
    · exact congrArg some (if_pos hroom)
    · simp [Analysis.callRecord, CallSite.key, CallSite.virtualType, hkind,
        Analysis.argumentsOf, hne]
  · cases hkey

/-- The key of a recorded call has the tag of what it is read back as. -/
theorem ofKey_key (hcall : call ∈ (ofText uri text).analysis.calls.toList) :
    call.key.bind Tag.ofKey = call.kind? := by
  obtain ⟨e, st, -, hrecord, -⟩ := exists_visited hcall
  rw [Call.kind?]
  cases hkey : call.key with
  | none => rfl
  | some key =>
      have hsome := Analysis.isSome_parse_key_of_callOf? (n := .expr e) hrecord hkey
      exact (VirtualType.map_tag_parse hsome).symm

/-! ### Offsets -/

/-- **One offset is in one literal**: the calls of mocks with a literal around it mock the same
names. -/
theorem eq_of_mocks {t u : Php.Token} {names names' : String} {call' : Call} {offset : Nat}
    (ht : t ∈ tokenize text.toList) (hu : u ∈ tokenize text.toList) (h : call.Mocks t names)
    (h' : call'.Mocks u names') (hto : call.literalSpan.any (·.contains offset) = true)
    (huo : call'.literalSpan.any (·.contains offset) = true) : names = names' := by
  rw [h.place, Option.any_some] at hto
  rw [h'.place, Option.any_some] at huo
  obtain rfl := Php.eq_of_inside ht hu (Php.Token.contains_of_inside hto) huo
  exact Option.some.inj (h.value.symm.trans h'.value)

/-- **The literal of a mock is found at every offset in it**, though perhaps as that of another
call. -/
theorem exists_mockAt (hcall : call ∈ (ofText uri text).analysis.calls.toList) {t : Php.Token}
    {names : String} (ht : t ∈ tokenize text.toList) (h : call.Mocks t names) {offset : Nat}
    (hoffset : call.literalSpan.any (·.contains offset) = true) :
    ∃ found signature, (ofText uri text).analysis.mockAt offset = some found ∧
      signature ∈ CallKind.mockSignatures ∧
      found.key = some (VirtualType.toKey (.mock signature names)) := by
  obtain ⟨signature, -, hkey⟩ := h.key
  have htag : call.key.bind Tag.ofKey = some .mock := by
    rw [hkey]
    exact Tag.ofKey_text_append .mock _
  cases hfind : (ofText uri text).analysis.mockAt offset with
  | none =>
      have hmissed := List.find?_eq_none.1 hfind call hcall
      simp [hoffset, htag] at hmissed
  | some found =>
      have hfound := List.mem_of_find?_eq_some hfind
      have hholds := List.find?_some hfind
      simp only [Bool.and_eq_true, beq_iff_eq] at hholds
      obtain ⟨u, hu, names', hmocks⟩ := exists_mocks hfound ((ofKey_key hfound).symm.trans hholds.2)
      obtain rfl := eq_of_mocks ht hu h hmocks hoffset hholds.1
      obtain ⟨signature', hsignature', hkey'⟩ := hmocks.key
      exact ⟨found, signature', rfl, hsignature', hkey'⟩

/-- At the name of a call there is no literal of a mock. -/
theorem mockAt_of_callAtName {offset : Nat}
    (hcall : (ofText uri text).analysis.callAtName offset = some call) :
    (ofText uri text).analysis.mockAt offset = none := by
  obtain ⟨t, ht, hnamed⟩ := exists_namedBy (List.mem_of_find?_eq_some hcall)
  have hto := List.find?_some hcall
  rw [hnamed.place] at hto
  refine List.find?_eq_none.2 fun mock hmem hholds => ?_
  simp only [Bool.and_eq_true, beq_iff_eq] at hholds
  obtain ⟨huo, htag⟩ := hholds
  obtain ⟨u, hu, names, hmocks⟩ := exists_mocks hmem ((ofKey_key hmem).symm.trans htag)
  rw [hmocks.place, Option.any_some] at huo
  -- a word is no quoted string
  obtain rfl := Php.eq_of_inside ht hu hto huo
  have hword := hnamed.word
  rw [hmocks.quoted] at hword
  cases hword

end Document

end MockLens
