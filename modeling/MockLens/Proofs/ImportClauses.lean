/-
**Import clauses: the forms of an import, and what is read from them.**

An import takes in one name or several, separately or behind a common beginning, under their last
segments or under names of their own; and the names may be those of functions and constants, all of
them or, in a group, some of them.  Each form is described here by its parts, with the tokens it is
written with.  The parser reads such tokens as the tree of the clause, in which functions and
constants are left out, and whatever follows the statement is left to the parsers behind it.  So a
file that consists of imports is read as the trees of its clauses.

Main definitions:

* `WrittenName` — a name with or without a backslash in front;
* `WrittenItem`, `ImportClause` — an imported name with its alias, and the forms of an import;
* `ImportClause.statement` — the tree of a clause;
* `ImportClause.Spelled` — the tokens a clause is written with;
* `SpelledImports` — the tokens of imports, one after the other;
* `Parser.Reads` — a parser uses up exactly the given tokens.

Main results:

* `Parser.Reads.separated`, `Parser.Reads.separatedUntil` — lists are read item by item;
* `ImportClause.importStatement_spelled` — **a clause is read as its tree**;
* `parseTokens_spelled` — **a file of imports is read as the trees of its clauses.**
-/
import MockLens.Proofs.UsedTokens
import MockLens.Php.Parser

set_option autoImplicit false

namespace MockLens.Php

/-! ### Clauses -/

/-- A name as it is written: its segments, and whether a backslash stands in front of them. -/
structure WrittenName where
  rooted : Bool
  segments : List String
  ne_nil : segments ≠ []
  bare : ∀ s ∈ segments, s ≠ "" ∧ '\\' ∉ s.toList

namespace WrittenName

/-- The path the name gives: its segments, with backslashes between. -/
def path (n : WrittenName) : String := "\\".intercalate n.segments

/-- The text of the name. -/
def text (n : WrittenName) : String := if n.rooted then "\\" ++ n.path else n.path

/-- The last segment. -/
def last (n : WrittenName) : String := n.segments.getLast n.ne_nil

/-- The name behind another one. -/
def below (base n : WrittenName) : WrittenName where
  rooted := base.rooted
  segments := base.segments ++ n.segments
  ne_nil := List.append_ne_nil_of_left_ne_nil base.ne_nil _
  bare := List.forall_mem_append.2 ⟨base.bare, n.bare⟩

end WrittenName

/-- An imported name, and the alias if it is given one. -/
structure WrittenItem where
  name : WrittenName
  short : Option String

/-- What may be imported besides class-likes. -/
inductive OtherImport where
  | function
  | constant
  deriving DecidableEq, Repr

/-- The keyword of such an import. -/
def OtherImport.word : OtherImport → String
  | function => "function"
  | constant => "const"

/-- The forms of an import. -/
inductive ImportClause where
  /-- Class-likes. -/
  | list (first : WrittenItem) (more : List WrittenItem)
  /-- Functions, or constants. -/
  | others (kind : OtherImport) (first : WrittenItem) (more : List WrittenItem)
  /-- A group behind a common beginning, in which an item may be a function or a constant. -/
  | group (base : WrittenName) (items : List (Option OtherImport × WrittenItem))
  /-- A group of functions, or of constants. -/
  | otherGroup (kind : OtherImport) (base : WrittenName) (items : List WrittenItem)

/-- The tree of an item. -/
def WrittenItem.tree (i : WrittenItem) : ImportItem := ⟨i.name.text, i.short⟩

/-- The class-likes among the items of a group. -/
def classItems (items : List (Option OtherImport × WrittenItem)) : List WrittenItem :=
  items.filterMap fun e => if e.1.isNone then some e.2 else none

/-- The tree of a clause: the imports of class-likes, or a statement that declares nothing. -/
def ImportClause.statement : ImportClause → Stmt
  | list first more => .imports ⟨none, (first :: more).map WrittenItem.tree⟩
  | others _ _ _ => .inert [] []
  | group base items => .imports ⟨some base.text, (classItems items).map WrittenItem.tree⟩
  | otherGroup _ _ _ => .inert [] []

/-! ### Spelling -/

/-- A token that a name is written as.  The words that begin imports of functions and constants are
no names. -/
structure NameToken (n : WrittenName) (t : Token) : Prop where
  text : t.text = n.text
  kind : (Parser.isWord t.kind || t.kind == .qualifiedName || t.kind == .rootedName) = true
  ordinary : ∀ other : OtherImport, t.kind ≠ .keyword other.word

/-- The tokens of an item. -/
inductive SpelledItem : WrittenItem → List Token → Prop
  | plain {n : WrittenName} {t : Token} : NameToken n t → SpelledItem ⟨n, none⟩ [t]
  | renamed {n : WrittenName} {t as short : Token} :
      NameToken n t → as.kind = .keyword "as" → Parser.isWord short.kind = true →
        SpelledItem ⟨n, some short.text⟩ [t, as, short]

/-- The tokens of an item of a group. -/
inductive SpelledGroupItem : Option OtherImport × WrittenItem → List Token → Prop
  | classLike {i : WrittenItem} {ts : List Token} : SpelledItem i ts → SpelledGroupItem (none, i) ts
  | other {kind : OtherImport} {k : Token} {i : WrittenItem} {ts : List Token} :
      k.kind = .keyword kind.word → SpelledItem i ts → SpelledGroupItem (some kind, i) (k :: ts)

section Lists

variable {α : Type} (spelled : α → List Token → Prop)

/-- The tokens of a list of at least one item with commas between. -/
inductive SpelledList : List α → List Token → Prop
  | last {a : α} {ts : List Token} : spelled a ts → SpelledList [a] ts
  | more {a : α} {as : List α} {ts us : List Token} {comma : Token} :
      spelled a ts → comma.kind = .symbol "," → SpelledList as us →
        SpelledList (a :: as) (ts ++ comma :: us)

/-- The tokens of a list that may be empty or end with a comma. -/
inductive SpelledOpenList : List α → List Token → Prop
  | nil : SpelledOpenList [] []
  | last {a : α} {ts : List Token} : spelled a ts → SpelledOpenList [a] ts
  | more {a : α} {as : List α} {ts us : List Token} {comma : Token} :
      spelled a ts → comma.kind = .symbol "," → SpelledOpenList as us →
        SpelledOpenList (a :: as) (ts ++ comma :: us)

/-- The tokens of a list in braces. -/
inductive SpelledBraces : List α → List Token → Prop
  | intro {as : List α} {ts : List Token} {opener closer : Token} :
      opener.kind = .symbol "\x7b" → SpelledOpenList spelled as ts →
        closer.kind = .symbol "\x7d" → SpelledBraces as (opener :: ts ++ [closer])

end Lists

/-- The tokens of a clause, behind the word that begins an import and up to the end of the
statement. -/
inductive ImportClause.Spelled : ImportClause → List Token → Prop
  | list {first : WrittenItem} {more : List WrittenItem} {ts : List Token} :
      SpelledList SpelledItem (first :: more) ts → Spelled (.list first more) ts
  | others {kind : OtherImport} {k : Token} {first : WrittenItem} {more : List WrittenItem}
      {ts : List Token} :
      k.kind = .keyword kind.word → SpelledList SpelledItem (first :: more) ts →
        Spelled (.others kind first more) (k :: ts)
  | group {base : WrittenName} {items : List (Option OtherImport × WrittenItem)}
      {t slash : Token} {ts : List Token} :
      NameToken base t → slash.kind = .symbol "\\" → SpelledBraces SpelledGroupItem items ts →
        Spelled (.group base items) (t :: slash :: ts)
  | otherGroup {kind : OtherImport} {k : Token} {base : WrittenName} {items : List WrittenItem}
      {t slash : Token} {ts : List Token} :
      k.kind = .keyword kind.word → NameToken base t → slash.kind = .symbol "\\" →
        SpelledBraces SpelledItem items ts →
        Spelled (.otherGroup kind base items) (k :: t :: slash :: ts)

/-- The number of items of a clause. -/
def ImportClause.size : ImportClause → Nat
  | list _ more => more.length + 1
  | others _ _ more => more.length + 1
  | group _ items => items.length
  | otherGroup _ _ items => items.length

/-! ### Reading tokens -/

namespace Parser

/-- The offset behind tokens. -/
def offsetBehind (stop : Nat) (tokens : List Token) : Nat :=
  tokens.foldl (fun _ t => t.span.stop) stop

/-- In front of a token of a kind that `follow` accepts, a parser reads the given tokens as `value`
and uses up exactly these. -/
def Reads {α : Type} (follow : TokenKind → Bool) (p : Parser α) (tokens : List Token)
    (value : α) : Prop :=
  ∀ stop next rest, follow next.kind = true →
    p ⟨stop, tokens ++ next :: rest⟩ = .done value ⟨offsetBehind stop tokens, next :: rest⟩

/-- A token that is seen by whoever looks at it. -/
def isSeen (kind : TokenKind) : Bool := kind != .stray && kind != .gap

theorem isSeen_symbol {t : Token} {text : String} (h : t.kind = .symbol text) :
    isSeen t.kind = true := by
  rw [h]
  rfl

theorem isSeen_keyword {t : Token} {word : String} (h : t.kind = .keyword word) :
    isSeen t.kind = true := by
  rw [h]
  rfl

section Tokens

variable {t : Token} {stop : Nat} {rest : List Token}

theorem look_seen (h : isSeen t.kind = true) :
    (⟨stop, t :: rest⟩ : TokenStream).look 0 = (.token t, ⟨stop, t :: rest⟩) := by
  obtain ⟨hstray, hgap⟩ : t.kind ≠ .stray ∧ t.kind ≠ .gap := by simpa [isSeen] using h
  simp [TokenStream.look, lookAhead, hstray, hgap]

theorem peek?_seen (h : isSeen t.kind = true) :
    peek? ⟨stop, t :: rest⟩ = .done (some t) ⟨stop, t :: rest⟩ := by
  rw [peek?, peekAt?, look_seen h]

theorem peek_seen (h : isSeen t.kind = true) :
    peek ⟨stop, t :: rest⟩ = .done t ⟨stop, t :: rest⟩ := by
  rw [peek, bind_done (peek?_seen h)]
  rfl

theorem take_seen (h : isSeen t.kind = true) :
    take ⟨stop, t :: rest⟩ = .done t ⟨t.span.stop, rest⟩ := by
  rw [take, look_seen h]
  rfl

theorem isNext_seen (h : isSeen t.kind = true) (kind : TokenKind) :
    isNext kind ⟨stop, t :: rest⟩ = .done (t.kind == kind) ⟨stop, t :: rest⟩ := by
  rw [isNext, bind_done (peek?_seen h)]
  rfl

theorem accept_same {kind : TokenKind} (h : isSeen t.kind = true) (hkind : t.kind = kind) :
    accept kind ⟨stop, t :: rest⟩ = .done true ⟨t.span.stop, rest⟩ := by
  rw [accept, bind_done (isNext_seen h kind), if_pos (by simp [hkind]), bind_done (take_seen h)]
  rfl

theorem accept_other {kind : TokenKind} (h : isSeen t.kind = true) (hkind : t.kind ≠ kind) :
    accept kind ⟨stop, t :: rest⟩ = .done false ⟨stop, t :: rest⟩ := by
  rw [accept, bind_done (isNext_seen h kind), if_neg (by simp [hkind])]
  rfl

theorem expect_seen {kind : TokenKind} (h : isSeen t.kind = true) (hkind : t.kind = kind) :
    expect kind ⟨stop, t :: rest⟩ = .done t ⟨t.span.stop, rest⟩ := by
  rw [expect, bind_done (peek_seen h), if_pos (by simp [hkind]), take_seen h]

end Tokens

/-! ### Lists -/

/-- The next token goes on with neither an item nor a list of items. -/
def endsList (follow : TokenKind → Bool) (kind : TokenKind) : Bool :=
  follow kind && kind != .symbol ","

section Lists

variable {α β : Type} {spelled : α → List Token → Prop} {follow : TokenKind → Bool}
  {item : Parser β} {value : α → β}

/-- **A list is read item by item.** -/
theorem Reads.separated (hitem : ∀ a ts, spelled a ts → Reads follow item ts (value a))
    (hcomma : follow (.symbol ",") = true) (hseen : ∀ kind, follow kind = true → isSeen kind = true)
    {as : List α} {ts : List Token} (h : SpelledList spelled as ts) {n : Nat} (hn : as.length ≤ n)
    (values : List β) :
    Reads (endsList follow) (separated item n values) ts (values.reverse ++ as.map value) := by
  induction h generalizing n values with
  | @last a ts ha =>
      intro stop next rest hnext
      obtain ⟨hfollow, hother⟩ : follow next.kind = true ∧ next.kind ≠ .symbol "," := by
        simpa [endsList] using hnext
      obtain _ | n := n
      · simp at hn
      · rw [Parser.separated, bind_done (hitem _ _ ha stop next rest hfollow),
          bind_done (accept_other (hseen _ hfollow) hother), if_neg Bool.false_ne_true]
        simp
        rfl
  | @more a as ts us comma ha hkind _ ih =>
      intro stop next rest hnext
      obtain _ | n := n
      · simp at hn
      · have hfirst := hitem _ _ ha stop comma (us ++ next :: rest) (hkind ▸ hcomma)
        have hmore := ih (Nat.le_of_succ_le_succ hn) (value a :: values) comma.span.stop next rest
          hnext
        rw [List.append_assoc, List.cons_append, Parser.separated, bind_done hfirst,
          bind_done (accept_same (hseen _ (hkind ▸ hcomma)) hkind), if_pos rfl, hmore]
        simp [offsetBehind]

/-- **A list that a closer ends is read item by item**, if no item begins like a closer. -/
theorem Reads.separatedUntil {stops : TokenKind → Bool}
    (hitem : ∀ a ts, spelled a ts → Reads follow item ts (value a))
    (hhead : ∀ a ts, spelled a ts →
      ∃ t us, ts = t :: us ∧ isSeen t.kind = true ∧ stops t.kind = false)
    (hcomma : follow (.symbol ",") = true) (hseen : ∀ kind, follow kind = true → isSeen kind = true)
    {as : List α} {ts : List Token} (h : SpelledOpenList spelled as ts) {n : Nat}
    (hn : as.length ≤ n) (values : List β) :
    Reads (fun kind => endsList follow kind && stops kind) (separatedUntil stops item n values) ts
      (values.reverse ++ as.map value) := by
  -- an item is read unless a closer stands where it would begin
  have hbegin : ∀ {a ts}, spelled a ts → ∀ (n stop : Nat) (values : List β) (rest : List Token),
      Parser.separatedUntil stops item (n + 1) values ⟨stop, ts ++ rest⟩
        = (item >>= fun found => accept (.symbol ",") >>= fun more =>
            if more = true then Parser.separatedUntil stops item n (found :: values)
            else pure (found :: values).reverse) ⟨stop, ts ++ rest⟩ := by
    intro a ts ha n stop values rest
    obtain ⟨t, us, rfl, ht, hopen⟩ := hhead _ _ ha
    rw [Parser.separatedUntil, List.cons_append, bind_done (peek_seen ht), hopen,
      if_neg Bool.false_ne_true]
  induction h generalizing n values with
  | nil =>
      intro stop next rest hnext
      obtain ⟨⟨hfollow, -⟩, hstops⟩ :
          (follow next.kind = true ∧ next.kind ≠ .symbol ",") ∧ stops next.kind = true := by
        simpa [endsList] using hnext
      cases n with
      | zero => simp [Parser.separatedUntil, offsetBehind]; rfl
      | succ n =>
          rw [Parser.separatedUntil, List.nil_append, bind_done (peek_seen (hseen _ hfollow)),
            if_pos hstops]
          simp
          rfl
  | last ha =>
      intro stop next rest hnext
      obtain ⟨⟨hfollow, hother⟩, -⟩ :
          (follow next.kind = true ∧ next.kind ≠ .symbol ",") ∧ stops next.kind = true := by
        simpa [endsList] using hnext
      obtain _ | n := n
      · simp at hn
      · rw [hbegin ha, bind_done (hitem _ _ ha stop next rest hfollow),
          bind_done (accept_other (hseen _ hfollow) hother), if_neg Bool.false_ne_true]
        simp
        rfl
  | @more a as ts us comma ha hkind _ ih =>
      intro stop next rest hnext
      obtain _ | n := n
      · simp at hn
      · have hfirst := hitem _ _ ha stop comma (us ++ next :: rest) (hkind ▸ hcomma)
        have hmore := ih (Nat.le_of_succ_le_succ hn) (value a :: values) comma.span.stop next rest
          hnext
        rw [List.append_assoc, List.cons_append, hbegin ha, bind_done hfirst,
          bind_done (accept_same (hseen _ (hkind ▸ hcomma)) hkind), if_pos rfl, hmore]
        simp [offsetBehind]

end Lists

end Parser

/-! ### Names and items -/

namespace Parser

theorem isSeen_of_isWord {kind : TokenKind} (h : isWord kind = true) : isSeen kind = true := by
  cases kind <;> first | rfl | cases h

theorem word_token {t : Token} (h : isWord t.kind = true) (stop : Nat) (rest : List Token) :
    word ⟨stop, t :: rest⟩ = .done ⟨t.text, t.span⟩ ⟨t.span.stop, rest⟩ := by
  rw [word, bind_done (take_seen (isSeen_of_isWord h)), if_pos h]
  rfl

/-- What may follow an item: a token that is seen and does not rename it. -/
def endsItem (kind : TokenKind) : Bool := isSeen kind && kind != .keyword "as"

theorem isSeen_of_endsItem {kind : TokenKind} (h : endsItem kind = true) : isSeen kind = true :=
  (Bool.and_eq_true_iff.1 h).1

theorem ne_as_of_endsItem {kind : TokenKind} (h : endsItem kind = true) : kind ≠ .keyword "as" := by
  simpa using (Bool.and_eq_true_iff.1 h).2

end Parser

open MockLens.Php.Parser

namespace NameToken

variable {n : WrittenName} {t : Token}

theorem isSeen (h : NameToken n t) : Parser.isSeen t.kind = true := by
  have hkind := h.kind
  cases hk : t.kind <;> first | rfl | (rw [hk] at hkind; cases hkind)

theorem path (h : NameToken n t) (stop : Nat) (rest : List Token) :
    Parser.path ⟨stop, t :: rest⟩ = .done ⟨n.text, t.span⟩ ⟨t.span.stop, rest⟩ := by
  rw [Parser.path, bind_done (take_seen h.isSeen), if_pos h.kind, h.text]
  rfl

/-- A name does not look like the beginning of an import of functions or constants. -/
theorem not_other (h : NameToken n t) :
    ¬((t.kind == .keyword "function" || t.kind == .keyword "const") = true) := by
  have hfunction : t.kind ≠ .keyword "function" := h.ordinary .function
  have hconst : t.kind ≠ .keyword "const" := h.ordinary .constant
  simp [hfunction, hconst]

end NameToken

theorem OtherImport.isOther {kind : OtherImport} {k : Token} (h : k.kind = .keyword kind.word) :
    (k.kind == .keyword "function" || k.kind == .keyword "const") = true := by
  cases kind <;> simp [h, word]

theorem SpelledItem.exists_head {i : WrittenItem} {ts : List Token} (h : SpelledItem i ts) :
    ∃ t us, ts = t :: us ∧ NameToken i.name t := by
  cases h with
  | plain ht => exact ⟨_, _, rfl, ht⟩
  | renamed ht _ _ => exact ⟨_, _, rfl, ht⟩

theorem SpelledItem.importItem {i : WrittenItem} {ts : List Token} (h : SpelledItem i ts) :
    Reads endsItem Rules.importItem ts i.tree := by
  intro stop next rest hnext
  cases h with
  | @plain n t ht =>
      rw [Rules.importItem, List.singleton_append, bind_done (ht.path _ _),
        bind_done (accept_other (isSeen_of_endsItem hnext) (ne_as_of_endsItem hnext)),
        if_neg Bool.false_ne_true]
      rfl
  | @renamed n t as short ht has hshort =>
      have hseen := isSeen_keyword has
      rw [Rules.importItem, List.cons_append, bind_done (ht.path _ _), List.cons_append,
        bind_done (accept_same hseen has), if_pos rfl, List.cons_append,
        bind_done (word_token hshort _ _)]
      rfl

/-- A name in front of a group is read like an item. -/
theorem NameToken.importItem {n : WrittenName} {t next : Token} (h : NameToken n t)
    (hnext : endsItem next.kind = true) (stop : Nat) (rest : List Token) :
    Rules.importItem ⟨stop, t :: next :: rest⟩ = .done ⟨n.text, none⟩ ⟨t.span.stop, next :: rest⟩ :=
  (SpelledItem.plain h).importItem stop next rest hnext

/-- The tree of an item of a group: only class-likes have one. -/
def groupTree (e : Option OtherImport × WrittenItem) : Option ImportItem :=
  if e.1.isNone then some e.2.tree else none

theorem filterMap_groupTree (items : List (Option OtherImport × WrittenItem)) :
    items.filterMap groupTree = (classItems items).map WrittenItem.tree := by
  rw [classItems, List.map_filterMap]
  congr 1
  funext e
  cases h : e.1.isNone <;> simp [groupTree, h]

theorem SpelledGroupItem.groupItem {e : Option OtherImport × WrittenItem} {ts : List Token}
    (h : SpelledGroupItem e ts) : Reads endsItem Rules.groupItem ts (groupTree e) := by
  intro stop next rest hnext
  cases h with
  | @classLike i ts hi =>
      obtain ⟨t, us, rfl, ht⟩ := hi.exists_head
      have hitem := hi.importItem stop next rest hnext
      rw [List.cons_append] at hitem ⊢
      rw [Rules.groupItem, bind_done (peek_seen ht.isSeen), if_neg ht.not_other, bind_done hitem]
      rfl
  | @other kind k i ts hk hi =>
      rw [Rules.groupItem, List.cons_append, bind_done (peek_seen (isSeen_keyword hk)),
        if_pos (OtherImport.isOther hk), bind_done (take_seen (isSeen_keyword hk)),
        bind_done (hi.importItem _ next rest hnext)]
      rfl

/-! ### Lists of items -/

section Lists

variable {α β : Type} {spelled : α → List Token → Prop} {item : Parser β} {value : α → β}

/-- A list in braces is read whatever follows it. -/
theorem SpelledBraces.groupItems (r : Rules)
    (hitem : ∀ a ts, spelled a ts → Reads endsItem item ts (value a))
    (hhead : ∀ a ts, spelled a ts →
      ∃ t us, ts = t :: us ∧ Parser.isSeen t.kind = true ∧ (t.kind == .symbol "\x7d") = false)
    {as : List α} {ts : List Token} (h : SpelledBraces spelled as ts) (hlimit : as.length ≤ r.limit)
    (stop : Nat) (rest : List Token) :
    r.groupItems item ⟨stop, ts ++ rest⟩ = .done (as.map value) ⟨offsetBehind stop ts, rest⟩ := by
  obtain ⟨hopener, hlist, hcloser⟩ := h
  rename_i ts opener closer
  have hopen := isSeen_symbol hopener
  have hclose := isSeen_symbol hcloser
  have hread : Reads (fun kind => endsList endsItem kind && kind == .symbol "\x7d")
      (separatedUntil (· == .symbol "\x7d") item r.limit []) ts (as.map value) :=
    Reads.separatedUntil hitem hhead rfl (fun _ => isSeen_of_endsItem) hlist hlimit []
  have hitems := hread opener.span.stop closer rest (by rw [hcloser]; rfl)
  rw [List.cons_append, List.cons_append, List.append_assoc, List.singleton_append,
    Rules.groupItems, Parser.symbol, bind_done (expect_seen hopen hopener), bind_done hitems,
    Parser.symbol, bind_done (expect_seen hclose hcloser)]
  simp [offsetBehind]
  rfl

end Lists

/-- An item of a list in braces is no closer. -/
theorem SpelledItem.head_inBraces {i : WrittenItem} {ts : List Token} (h : SpelledItem i ts) :
    ∃ t us, ts = t :: us ∧ Parser.isSeen t.kind = true ∧ (t.kind == .symbol "\x7d") = false := by
  obtain ⟨t, us, rfl, ht⟩ := h.exists_head
  refine ⟨t, us, rfl, ht.isSeen, ?_⟩
  have hkind := ht.kind
  cases hk : t.kind <;> first | rfl | (rw [hk] at hkind; cases hkind)

theorem SpelledGroupItem.head_inBraces {e : Option OtherImport × WrittenItem} {ts : List Token}
    (h : SpelledGroupItem e ts) :
    ∃ t us, ts = t :: us ∧ Parser.isSeen t.kind = true ∧ (t.kind == .symbol "\x7d") = false := by
  cases h with
  | classLike hi => exact hi.head_inBraces
  | other hk _ => exact ⟨_, _, rfl, isSeen_keyword hk, by rw [hk]; rfl⟩

/-! ### Statements -/

/-- The tokens at the end of a statement: a semicolon, or a closing tag with an opening tag right
behind it. -/
inductive SpelledEnd : List Token → Prop
  | semicolon {t : Token} : t.kind = .symbol ";" → SpelledEnd [t]
  | tags {closing opening : Token} :
      closing.kind = .closeTag → opening.kind = .openTag → SpelledEnd [closing, opening]

theorem SpelledEnd.exists_head {ts : List Token} (h : SpelledEnd ts) :
    ∃ t us, ts = t :: us ∧ endsList endsItem t.kind = true ∧ endsItem t.kind = true ∧
      Parser.isSeen t.kind = true ∧ t.kind ≠ .symbol "," ∧ t.kind ≠ .symbol "\\" := by
  cases h with
  | semicolon ht => exact ⟨_, _, rfl, by rw [ht]; decide⟩
  | tags ht _ => exact ⟨_, _, rfl, by rw [ht]; decide⟩

theorem SpelledEnd.terminator {ts : List Token} (h : SpelledEnd ts) (stop : Nat)
    (rest : List Token) :
    Parser.terminator ⟨stop, ts ++ rest⟩ = .done () ⟨offsetBehind stop ts, rest⟩ := by
  cases h with
  | @semicolon t ht =>
      have hseen := isSeen_symbol ht
      rw [Parser.terminator, List.singleton_append, bind_done (peek_seen hseen),
        if_pos (by rw [ht]; rfl), bind_done (take_seen hseen), if_neg (by rw [ht]; decide)]
      rfl
  | @tags closing opening ht ho =>
      have hseen : Parser.isSeen closing.kind = true := by rw [ht]; rfl
      have hopen : Parser.isSeen opening.kind = true := by rw [ho]; rfl
      rw [Parser.terminator, List.cons_append, bind_done (peek_seen hseen),
        if_pos (by rw [ht]; rfl), bind_done (take_seen hseen), if_pos (by rw [ht]; rfl),
        List.singleton_append, bind_done (accept_same hopen ho)]
      rfl

theorem separated_importItem {items : List WrittenItem} {ts : List Token}
    (h : SpelledList SpelledItem items ts) {n : Nat} (hn : items.length ≤ n) :
    Reads (endsList endsItem) (separated Rules.importItem n []) ts (items.map WrittenItem.tree) :=
  Reads.separated (fun _ _ hi => hi.importItem) rfl (fun _ => isSeen_of_endsItem) h hn []

section Statements

variable {r : Rules} {es rest : List Token}

/-- Functions or constants are passed over, behind the word that says so. -/
theorem importOthers_list {items : List WrittenItem} {ts : List Token} {k : Token}
    (h : SpelledList SpelledItem items ts) (hend : SpelledEnd es) (hk : Parser.isSeen k.kind = true)
    (hlimit : items.length ≤ r.limit) (stop : Nat) :
    r.importOthers ⟨stop, k :: (ts ++ (es ++ rest))⟩
      = .done (.inert [] []) ⟨offsetBehind stop (k :: (ts ++ es)), rest⟩ := by
  have hterm := fun stop => hend.terminator stop rest
  obtain ⟨e, es', rfl, hlist, hitem, hseen, hcomma, hslash⟩ := hend.exists_head
  rw [Rules.importOthers, bind_done (take_seen hk)]
  cases h with
  | last hi =>
      rw [List.cons_append, bind_done (hi.importItem k.span.stop e (es' ++ rest) hitem),
        bind_done (accept_other hseen hslash), if_neg Bool.false_ne_true,
        bind_done (accept_other hseen hcomma), if_neg Bool.false_ne_true, ← List.cons_append,
        bind_done (hterm _)]
      simp [offsetBehind]
      rfl
  | @more _ _ ts us comma hi hkind hmore =>
      have hcommaSeen := isSeen_symbol hkind
      have hfirst := hi.importItem k.span.stop comma (us ++ (e :: es' ++ rest)) (by rw [hkind]; rfl)
      have hrest := separated_importItem hmore (Nat.le_of_succ_le hlimit) comma.span.stop e
        (es' ++ rest) hlist
      rw [List.append_assoc, List.cons_append, bind_done hfirst,
        bind_done (accept_other hcommaSeen (by rw [hkind]; decide)), if_neg Bool.false_ne_true,
        bind_done (accept_same hcommaSeen hkind), if_pos rfl, List.cons_append, bind_done hrest,
        ← List.cons_append, bind_done (hterm _)]
      simp [offsetBehind]
      rfl

theorem importOthers_group {base : WrittenName} {items : List WrittenItem} {ts : List Token}
    {k t slash : Token} (hbase : NameToken base t) (hslash : slash.kind = .symbol "\\")
    (h : SpelledBraces SpelledItem items ts) (hend : SpelledEnd es)
    (hk : Parser.isSeen k.kind = true) (hlimit : items.length ≤ r.limit) (stop : Nat) :
    r.importOthers ⟨stop, k :: t :: slash :: (ts ++ (es ++ rest))⟩
      = .done (.inert [] []) ⟨offsetBehind stop (k :: t :: slash :: (ts ++ es)), rest⟩ := by
  have hseen := isSeen_symbol hslash
  have hname := hbase.importItem (by rw [hslash]; rfl) k.span.stop (ts ++ (es ++ rest))
  have hitems := h.groupItems r (fun _ _ hi => hi.importItem) (fun _ _ hi => hi.head_inBraces)
    hlimit slash.span.stop (es ++ rest)
  rw [Rules.importOthers, bind_done (take_seen hk), bind_done hname,
    bind_done (accept_same hseen hslash), if_pos rfl, bind_done hitems,
    bind_done (hend.terminator _ rest)]
  simp [offsetBehind]
  rfl

theorem importStatement_list {first : WrittenItem} {more : List WrittenItem} {ts : List Token}
    {use : Token} (h : SpelledList SpelledItem (first :: more) ts) (hend : SpelledEnd es)
    (huse : Parser.isSeen use.kind = true) (hlimit : more.length ≤ r.limit) (stop : Nat) :
    r.importStatement ⟨stop, use :: (ts ++ (es ++ rest))⟩
      = .done (.imports ⟨none, (first :: more).map WrittenItem.tree⟩)
          ⟨offsetBehind stop (use :: (ts ++ es)), rest⟩ := by
  have hterm := fun stop => hend.terminator stop rest
  obtain ⟨e, es', rfl, hlist, hitem, hseen, hcomma, hslash⟩ := hend.exists_head
  rw [Rules.importStatement, bind_done (take_seen huse)]
  cases h with
  | last hi =>
      have hread := hi.importItem use.span.stop e (es' ++ rest) hitem
      obtain ⟨t, us, rfl, ht⟩ := hi.exists_head
      rw [List.cons_append] at hread ⊢
      rw [bind_done (peek_seen ht.isSeen), if_neg ht.not_other, List.cons_append, bind_done hread,
        bind_done (isNext_seen hseen _), beq_false_of_ne hslash, Bool.and_false,
        if_neg Bool.false_ne_true, bind_done (accept_other hseen hcomma),
        if_neg Bool.false_ne_true, ← List.cons_append, bind_done (hterm _)]
      simp [offsetBehind]
      rfl
  | @more _ _ ts us comma hi hkind hmore =>
      have hcommaSeen := isSeen_symbol hkind
      have hnot : comma.kind ≠ .symbol "\\" := by rw [hkind]; decide
      have hfirst := hi.importItem use.span.stop comma (us ++ (e :: es' ++ rest))
        (by rw [hkind]; rfl)
      have hrest := separated_importItem hmore hlimit comma.span.stop e (es' ++ rest) hlist
      obtain ⟨t, ts, rfl, ht⟩ := hi.exists_head
      rw [List.cons_append] at hfirst
      rw [List.append_assoc, List.cons_append, List.cons_append, bind_done (peek_seen ht.isSeen),
        if_neg ht.not_other, bind_done hfirst, bind_done (isNext_seen hcommaSeen _),
        beq_false_of_ne hnot, Bool.and_false, if_neg Bool.false_ne_true,
        bind_done (accept_same hcommaSeen hkind), if_pos rfl, List.cons_append, bind_done hrest,
        ← List.cons_append, bind_done (hterm _)]
      simp [offsetBehind]
      rfl

theorem importStatement_group {base : WrittenName} {items : List (Option OtherImport × WrittenItem)}
    {ts : List Token} {use t slash : Token} (hbase : NameToken base t)
    (hslash : slash.kind = .symbol "\\") (h : SpelledBraces SpelledGroupItem items ts)
    (hend : SpelledEnd es) (huse : Parser.isSeen use.kind = true)
    (hlimit : items.length ≤ r.limit) (stop : Nat) :
    r.importStatement ⟨stop, use :: t :: slash :: (ts ++ (es ++ rest))⟩
      = .done (.imports ⟨some base.text, (classItems items).map WrittenItem.tree⟩)
          ⟨offsetBehind stop (use :: t :: slash :: (ts ++ es)), rest⟩ := by
  have hseen := isSeen_symbol hslash
  have hname := hbase.importItem (by rw [hslash]; rfl) use.span.stop (ts ++ (es ++ rest))
  have hitems := h.groupItems r (fun _ _ hi => hi.groupItem) (fun _ _ hi => hi.head_inBraces)
    hlimit slash.span.stop (es ++ rest)
  have htrees : (items.map groupTree).filterMap id = (classItems items).map WrittenItem.tree := by
    rw [List.filterMap_map, Function.id_comp, filterMap_groupTree]
  rw [Rules.importStatement, bind_done (take_seen huse), bind_done (peek_seen hbase.isSeen),
    if_neg hbase.not_other, bind_done hname, bind_done (isNext_seen hseen _), hslash,
    if_pos (by rfl), bind_done (take_seen hseen), bind_done hitems,
    bind_done (hend.terminator _ rest), htrees]
  simp [offsetBehind]
  rfl

/-- **A clause is read as its tree.** -/
theorem ImportClause.importStatement_spelled {c : ImportClause} {ts : List Token} {use : Token}
    (h : c.Spelled ts) (hend : SpelledEnd es) (huse : Parser.isSeen use.kind = true)
    (hlimit : c.size ≤ r.limit) (stop : Nat) :
    r.importStatement ⟨stop, use :: (ts ++ (es ++ rest))⟩
      = .done c.statement ⟨offsetBehind stop (use :: (ts ++ es)), rest⟩ := by
  cases h with
  | list hts => exact importStatement_list hts hend huse (Nat.le_of_succ_le hlimit) stop
  | others hk hts =>
      have hseen := isSeen_keyword hk
      rw [Rules.importStatement, bind_done (take_seen huse), List.cons_append,
        bind_done (peek_seen hseen), if_pos (OtherImport.isOther hk)]
      exact importOthers_list hts hend hseen hlimit _
  | group hbase hslash hts => exact importStatement_group hbase hslash hts hend huse hlimit stop
  | otherGroup hk hbase hslash hts =>
      have hseen := isSeen_keyword hk
      rw [Rules.importStatement, bind_done (take_seen huse), List.cons_append,
        bind_done (peek_seen hseen), if_pos (OtherImport.isOther hk)]
      exact importOthers_group hbase hslash hts hend hseen hlimit _

end Statements

/-! ### Files of imports -/

/-- The tokens of imports, one after the other. -/
inductive SpelledImports : List ImportClause → List Token → Prop
  | nil : SpelledImports [] []
  | cons {c : ImportClause} {cs : List ImportClause} {use : Token} {ts es us : List Token} :
      use.kind = .keyword "use" → c.Spelled ts → SpelledEnd es → SpelledImports cs us →
        SpelledImports (c :: cs) (use :: (ts ++ (es ++ us)))

/-- Behind an offset, each token ends further on than the one before. -/
def Advances (stop : Nat) (tokens : List Token) : Prop :=
  (stop :: tokens.map fun t => t.span.stop).Pairwise (· < ·)

theorem Advances.behind {stop : Nat} {tokens more : List Token} (hne : tokens ≠ [])
    (h : Advances stop (tokens ++ more)) :
    stop < offsetBehind stop tokens ∧ Advances (offsetBehind stop tokens) more := by
  induction tokens generalizing stop with
  | nil => exact absurd rfl hne
  | cons t ts ih =>
      obtain ⟨hfirst, hrest⟩ := List.pairwise_cons.1 h
      have ht : stop < t.span.stop := hfirst _ (by simp)
      cases ts with
      | nil => exact ⟨ht, hrest⟩
      | cons t' ts =>
          obtain ⟨hlt, hmore⟩ := ih (List.cons_ne_nil _ _) hrest
          exact ⟨Nat.lt_trans ht hlt, hmore⟩

theorem SpelledItem.length_pos {i : WrittenItem} {ts : List Token} (h : SpelledItem i ts) :
    0 < ts.length := by
  cases h <;> simp

theorem SpelledGroupItem.length_pos {e : Option OtherImport × WrittenItem} {ts : List Token}
    (h : SpelledGroupItem e ts) : 0 < ts.length := by
  cases h with
  | classLike hi => exact hi.length_pos
  | other _ _ => simp

section Lengths

variable {α : Type} {spelled : α → List Token → Prop} {as : List α} {ts : List Token}

theorem SpelledList.length_le (hitem : ∀ a ts, spelled a ts → 0 < ts.length)
    (h : SpelledList spelled as ts) : as.length ≤ ts.length := by
  induction h with
  | last ha => exact hitem _ _ ha
  | more ha _ _ ih =>
      simp only [List.length_cons, List.length_append]
      omega

theorem SpelledOpenList.length_le (hitem : ∀ a ts, spelled a ts → 0 < ts.length)
    (h : SpelledOpenList spelled as ts) : as.length ≤ ts.length := by
  induction h with
  | nil => exact Nat.le_refl 0
  | last ha => exact hitem _ _ ha
  | more ha _ _ ih =>
      simp only [List.length_cons, List.length_append]
      omega

theorem SpelledBraces.length_le (hitem : ∀ a ts, spelled a ts → 0 < ts.length)
    (h : SpelledBraces spelled as ts) : as.length ≤ ts.length := by
  obtain ⟨-, hlist, -⟩ := h
  have hinner := hlist.length_le hitem
  simp only [List.length_cons, List.length_append]
  omega

end Lengths

/-- A clause has no more items than tokens. -/
theorem ImportClause.Spelled.size_le {c : ImportClause} {ts : List Token} (h : c.Spelled ts) :
    c.size ≤ ts.length := by
  cases h with
  | list hts => exact hts.length_le fun _ _ hi => hi.length_pos
  | others _ hts => exact Nat.le_succ_of_le (hts.length_le fun _ _ hi => hi.length_pos)
  | group _ _ hts =>
      have hitems := hts.length_le fun _ _ hi => hi.length_pos
      exact Nat.le_trans hitems (Nat.le_add_right _ 2)
  | otherGroup _ _ _ hts =>
      have hitems := hts.length_le fun _ _ hi => hi.length_pos
      exact Nat.le_trans hitems (Nat.le_add_right _ 3)

theorem parseStatement_spelled {r : Rules} {c : ImportClause} {use : Token} {ts es : List Token}
    (huse : use.kind = .keyword "use") (hc : c.Spelled ts) (hend : SpelledEnd es)
    (hlimit : ts.length ≤ r.limit) (stop : Nat) (rest : List Token) :
    r.parseStatement ⟨stop, use :: (ts ++ (es ++ rest))⟩
      = .done c.statement ⟨offsetBehind stop (use :: (ts ++ es)), rest⟩ := by
  have hseen := isSeen_keyword huse
  rw [Rules.parseStatement, bind_done (peek_seen hseen), huse]
  exact ImportClause.importStatement_spelled hc hend hseen (Nat.le_trans hc.size_le hlimit) stop

/-- A statement that is read is found, if it is not without tokens. -/
theorem statementsOf_done {rule : Parser Stmt} {statement : Stmt} {t : Token} {stop : Nat}
    {rest : List Token} {behind : TokenStream} (hseen : Parser.isSeen t.kind = true)
    (hread : rule ⟨stop, t :: rest⟩ = .done statement behind) (hmoved : stop < behind.stop)
    (fuel : Nat) (found : List Stmt) :
    statementsOf rule (fuel + 1) found ⟨stop, t :: rest⟩
      = statementsOf rule fuel (statement :: found) behind := by
  have honwards : TokenStream.onwards ⟨stop, t :: rest⟩ behind = behind := by
    rw [TokenStream.onwards, if_neg (by simpa using Nat.ne_of_gt hmoved)]
  rw [statementsOf, look_seen hseen]
  dsimp only
  rw [hread]
  dsimp only
  rw [honwards]

theorem statementsOf_spelled {r : Rules} {cs : List ImportClause} {tokens : List Token}
    (h : SpelledImports cs tokens) (hlimit : tokens.length ≤ r.limit) {fuel stop : Nat}
    (hfuel : tokens.length ≤ fuel) (hplaces : Advances stop tokens) (found : List Stmt) :
    statementsOf r.parseStatement fuel found ⟨stop, tokens⟩
      = found.reverse ++ cs.map ImportClause.statement := by
  induction h generalizing fuel stop found with
  | nil => cases fuel <;> simp [statementsOf, TokenStream.look, lookAhead]
  | @cons c cs use ts es us huse hc hend _ ih =>
      simp only [List.length_cons, List.length_append] at hlimit hfuel
      obtain _ | fuel := fuel
      · omega
      · have hseen := isSeen_keyword huse
        have hread := parseStatement_spelled huse hc hend (by omega : ts.length ≤ r.limit) stop us
        have hsplit : use :: (ts ++ (es ++ us)) = use :: (ts ++ es) ++ us := by simp
        obtain ⟨hmoved, hmore⟩ := Advances.behind (List.cons_ne_nil _ _) (hsplit ▸ hplaces)
        rw [statementsOf_done hseen hread hmoved, ih (by omega) (by omega) hmore]
        simp

/-- **A file of imports is read as the trees of its clauses.** -/
theorem parseTokens_spelled {cs : List ImportClause} {opening : Token} {tokens : List Token}
    (hopening : opening.kind = .openTag) (h : SpelledImports cs tokens)
    (hplaces : Advances 0 (opening :: tokens)) :
    parseTokens (opening :: tokens) = .inert [] [] :: cs.map ImportClause.statement := by
  have hseen : Parser.isSeen opening.kind = true := by rw [hopening]; rfl
  obtain ⟨hmoved, hmore⟩ : 0 < opening.span.stop ∧ Advances opening.span.stop tokens :=
    Advances.behind (List.cons_ne_nil opening []) hplaces
  let r : Rules := ⟨4 * (tokens.length + 1) + 7, ruleAt (4 * (tokens.length + 1) + 7)⟩
  have hlimit : tokens.length ≤ r.limit := by simp only [r]; omega
  have hread : r.parseStatement ⟨0, opening :: tokens⟩
      = .done (.inert [] []) ⟨opening.span.stop, tokens⟩ := by
    rw [Rules.parseStatement, bind_done (peek_seen hseen), hopening]
    dsimp only
    rw [bind_done (take_seen hseen)]
    rfl
  have hfile : statementsOf r.parseStatement (tokens.length + 2) [] ⟨0, opening :: tokens⟩
      = .inert [] [] :: cs.map ImportClause.statement := by
    rw [statementsOf_done hseen hread hmoved,
      statementsOf_spelled h hlimit (Nat.le_succ _) hmore]
    rfl
  exact hfile

end MockLens.Php
