/-
**No character is cut.**

Completion works from byte offsets throughout: the offset of the cursor, the offsets that the scans
of the text before it reach, those of the expressions of an analysis, those at which a line begins,
and those at which a key is taken apart.  This module puts the readings by bytes together
(`MockLens/Proofs/ByteScans.lean`, `MockLens/Proofs/ByteKeys.lean`), with the position of an offset
and with completion itself, and says that no one of them ever asks for a byte that is not there or
for a text that begins or ends inside a character.  They come to the same as the readings of
characters that completion is defined by.

For positions the line end is what matters.  Its byte occurs in no other character, so the last one
in front of an offset is a character of the text, also where the offset is inside another one, and
the line begins behind it.

Main definitions:

* `Bytes.lastLine`, `Bytes.starts`, `Bytes.position` — the position of an offset, from bytes;
* `Bytes.receiverTypes`, `Bytes.literalItems`, `Bytes.memberItems`, `Bytes.completions` —
  completion, from bytes;
* `Bytes.Uncut` — what is said of all readings by bytes.

Main results:

* `Bytes.lastLine_encode` — a line begins behind a character;
* `Bytes.position_encode` — the position of an offset is found by bytes;
* `Bytes.completions_eq` — completion goes through from every position of every text;
* `Bytes.characters_uncut` — **no reading by bytes cuts a character.**
-/
import MockLens.Completion
import MockLens.Proofs.ByteKeys
import MockLens.Proofs.ByteScans

set_option autoImplicit false

namespace MockLens

namespace Bytes

open Position (behind IsBoundary)
open Text (byteLength)
open Utf8 (encode)

/-! ### Lines -/

/-- Passes bytes, the first one at offset `n`, and counts the line ends; with their number it keeps
the offset behind the last one. -/
def lastLine : Nat → Nat × Nat → List UInt8 → Nat × Nat
  | _, line, [] => line
  | n, line, b :: bytes =>
    lastLine (n + 1) (if b = 0x0A then (line.1 + 1, n + 1) else line) bytes

/-- The offsets at which characters start, the first one at offset `n`. -/
def starts : Nat → List Char → List Nat
  | _, [] => []
  | n, c :: cs => n :: starts (n + c.utf8Size) cs

/-- The position of an offset: the line ends among the bytes in front of it, and the characters that
start between the last one and the offset. -/
def position (bytes : List UInt8) (offset : Nat) : Except Fault Position := do
  let stop := min offset bytes.length
  let passed ← window bytes 0 stop
  let line := lastLine 0 (0, 0) passed
  let rest ← slice bytes line.2 bytes.length
  pure ⟨line.1, ((starts line.2 rest.toList).takeWhile (· < stop)).length⟩

theorem lastLine_append (n : Nat) (line : Nat × Nat) (as bs : List UInt8) :
    lastLine n line (as ++ bs) = lastLine (n + as.length) (lastLine n line as) bs := by
  induction as generalizing n line with
  | nil => rfl
  | cons a as ih =>
      rw [List.cons_append, lastLine, ih, lastLine, List.length_cons, Nat.add_assoc,
        Nat.add_comm 1]

theorem lastLine_of_notMem {n : Nat} {line : Nat × Nat} {bytes : List UInt8} (h : 0x0A ∉ bytes) :
    lastLine n line bytes = line := by
  induction bytes generalizing n with
  | nil => rfl
  | cons b bytes ih =>
      obtain ⟨hb, hbytes⟩ := List.ne_and_not_mem_of_not_mem_cons h
      rw [lastLine, if_neg (Ne.symm hb), ih hbytes]

theorem mem_encodeChar_newline {c : Char} : 0x0A ∈ String.utf8EncodeChar c ↔ c = '\n' :=
  Utf8.mem_encodeChar_iff (by decide) (by decide)

/-- **A line begins behind a character.**  It is the one that a reader behind the text is on. -/
theorem lastLine_encode (cs : List Char) :
    ∃ front line, cs = front ++ line ∧ '\n' ∉ line ∧
      behind ⟨0, 0⟩ front = ⟨(lastLine 0 (0, 0) (encode cs)).1, 0⟩ ∧
      byteLength front = (lastLine 0 (0, 0) (encode cs)).2 := by
  induction cs using List.reverseRecOn with
  | nil => exact ⟨[], [], rfl, by simp, rfl, rfl⟩
  | append_singleton cs c ih =>
      obtain ⟨front, line, hcs, hline, hbehind, hlength⟩ := ih
      rw [Utf8.encode_concat, lastLine_append]
      by_cases hc : c = '\n'
      · subst hc
        refine ⟨cs ++ ['\n'], [], by simp, by simp, ?_, ?_⟩
        · rw [Position.behind_append, hcs, Position.behind_append, hbehind,
            Position.behind_of_notMem hline]
          rw [← hcs]
          rfl
        · rw [Text.byteLength_append, Utf8.length_encode, Nat.zero_add]
          rfl
      · have hnone : (0x0A : UInt8) ∉ String.utf8EncodeChar c := fun hmem =>
          hc (mem_encodeChar_newline.1 hmem)
        rw [lastLine_of_notMem hnone]
        refine ⟨front, line ++ [c], by simp [hcs], ?_, hbehind, hlength⟩
        simp [hline, Ne.symm hc]

/-- The characters that start in front of an offset.  Of the last one perhaps not all bytes do, but
then it is no line end. -/
theorem exists_passed {content : List Char} {stop : Nat} (h : stop ≤ byteLength content) :
    ∃ passed after, content = passed ++ after ∧
      Position.ofOffset content stop = behind ⟨0, 0⟩ passed ∧
      lastLine 0 (0, 0) ((encode content).take stop) = lastLine 0 (0, 0) (encode passed) ∧
      stop ≤ byteLength passed ∧
      ∀ pre d post, passed = pre ++ d :: post → byteLength pre < stop := by
  rcases Nat.eq_zero_or_pos stop with rfl | hpos
  · exact ⟨[], content, rfl, Position.ofOffset_byteLength List.nil_prefix, rfl, le_rfl, by simp⟩
  obtain ⟨before, c, hprefix, hlt, hle⟩ := Position.exists_around hpos h
  have hoffset := Position.ofOffset_of_lt_of_le hprefix hlt hle
  obtain ⟨after, rfl⟩ := hprefix
  refine ⟨before ++ [c], after, rfl, hoffset, ?_, by simpa using hle, fun pre d post hpassed => ?_⟩
  · obtain ⟨k, rfl⟩ := Nat.exists_eq_add_of_le hlt.le
    have htake : (encode (before ++ [c] ++ after)).take (byteLength before + k)
        = encode before ++ (String.utf8EncodeChar c).take k := by
      rw [Utf8.encode_append, Utf8.encode_concat, List.append_assoc, ← Utf8.length_encode,
        List.take_length_add_append,
        List.take_append_of_le_length (by rw [String.length_utf8EncodeChar]; omega)]
    rw [htake, Utf8.encode_concat, lastLine_append, lastLine_append]
    by_cases hc : c = '\n'
    · subst hc
      have hsize : '\n'.utf8Size = 1 := rfl
      obtain rfl : k = 1 := by omega
      rfl
    · have hnone : (0x0A : UInt8) ∉ String.utf8EncodeChar c := fun hmem =>
        hc (mem_encodeChar_newline.1 hmem)
      rw [lastLine_of_notMem hnone,
        lastLine_of_notMem fun hmem => hnone (List.mem_of_mem_take hmem)]
  · have hlength := congrArg List.length hpassed
    have hpre : pre <+: before := by
      refine List.prefix_of_prefix_length_le ⟨d :: post, hpassed.symm⟩ (List.prefix_append ..) ?_
      simp only [List.length_append, List.length_cons, List.length_nil] at hlength
      omega
    obtain ⟨more, rfl⟩ := hpre
    rw [Text.byteLength_append] at hlt
    omega

/-! ### Starts of characters -/

theorem starts_append (n : Nat) (as bs : List Char) :
    starts n (as ++ bs) = starts n as ++ starts (n + byteLength as) bs := by
  induction as generalizing n with
  | nil => rfl
  | cons a as ih =>
      rw [List.cons_append, starts, ih, starts, Text.byteLength_cons, Nat.add_assoc,
        List.cons_append]

theorem length_starts (n : Nat) (cs : List Char) : (starts n cs).length = cs.length := by
  induction cs generalizing n with
  | nil => rfl
  | cons c cs ih => rw [starts, List.length_cons, ih, List.length_cons]

theorem exists_of_mem_starts {n at_ : Nat} {cs : List Char} (h : at_ ∈ starts n cs) :
    ∃ pre d post, cs = pre ++ d :: post ∧ at_ = n + byteLength pre := by
  induction cs generalizing n with
  | nil => cases h
  | cons c cs ih =>
      rcases List.mem_cons.1 h with rfl | htail
      · exact ⟨[], c, cs, rfl, rfl⟩
      · obtain ⟨pre, d, post, rfl, rfl⟩ := ih htail
        exact ⟨c :: pre, d, post, rfl, by rw [Text.byteLength_cons, Nat.add_assoc]⟩

/-- The characters of a line that start in front of an offset. -/
theorem takeWhile_starts {front line : List Char} {stop : Nat}
    (hstart : ∀ pre d post, front ++ line = pre ++ d :: post → byteLength pre < stop)
    (hstop : stop ≤ byteLength (front ++ line)) (after : List Char) :
    (starts (byteLength front) (line ++ after)).takeWhile (· < stop)
      = starts (byteLength front) line := by
  have hall : ∀ at_ ∈ starts (byteLength front) line, decide (at_ < stop) = true := by
    intro at_ hat
    obtain ⟨pre, d, post, rfl, rfl⟩ := exists_of_mem_starts hat
    rw [← Text.byteLength_append]
    exact decide_eq_true (hstart (front ++ pre) d post (List.append_assoc ..).symm)
  have hnone : (starts (byteLength (front ++ line)) after).takeWhile (· < stop) = [] := by
    cases after with
    | nil => rfl
    | cons c after => rw [starts, List.takeWhile_cons_of_neg (by simpa using hstop)]
  rw [starts_append, ← Text.byteLength_append, List.takeWhile_append_of_pos hall, hnone,
    List.append_nil]

/-- **The position of an offset is found by bytes.** -/
theorem position_encode (content : List Char) (n : Nat) :
    position (encode content) n = .ok (Position.ofOffset content n) := by
  have hmin := Position.ofOffset_min content n
  rw [← Utf8.length_encode] at hmin
  rw [position, window_of_le (Nat.zero_le _) (Nat.min_le_right ..), ok_bind, hmin]
  have hstop : min n (encode content).length ≤ byteLength content := by
    rw [Utf8.length_encode]
    exact Nat.min_le_right ..
  generalize min n (encode content).length = stop at hstop ⊢
  obtain ⟨passed, after, rfl, hoffset, hlast, hreach, hstart⟩ := exists_passed hstop
  obtain ⟨front, line, rfl, hline, hbehind, hlength⟩ := lastLine_encode passed
  have hslice := slice_rest front (line ++ after)
  rw [← List.append_assoc] at hslice
  rw [List.extract_eq_take_drop, List.drop_zero, Nat.sub_zero, hlast, hoffset,
    Position.behind_append, hbehind, Position.behind_of_notMem hline]
  dsimp only
  rw [← hlength, hslice, ok_bind, String.toList_ofList, takeWhile_starts hstart hreach,
    length_starts, Nat.zero_add]
  rfl

/-! ### Receivers -/

/-- The candidate types of the receiver that ends at an offset of the text before the cursor. -/
def receiverTypes (doc : Document) (content before : List UInt8) (stop : Nat) :
    Except Fault (List String) :=
  match doc.analysis.typedEndingAt stop with
  | some t => pure t.types
  | none => do
    match ← variableBefore before stop with
    | some name =>
      let occurrences := doc.analysis.typed.toList.filter fun t =>
        t.span.stop ≤ stop && textAt? content t.span.start t.span.stop == some name
      pure (((Span.latest TypedExpr.span occurrences).map TypedExpr.types).getD [])
    | none => pure []

/-- The text from an offset on begins with the character around the offset. -/
theorem exists_fromByte (n : Nat) (content : List Char) :
    ∃ front, content = front ++ Text.fromByte n content ∧
      ∀ c ∈ (Text.fromByte n content).head?,
        byteLength front ≤ n ∧ n < byteLength front + c.utf8Size := by
  suffices h : ∀ before, ∃ front, content = front ++ (Text.cutBytes before n content).2 ∧
      ∀ c ∈ (Text.cutBytes before n content).2.head?,
        byteLength front ≤ n ∧ n < byteLength front + c.utf8Size from h []
  induction content generalizing n with
  | nil => exact fun before => ⟨[], rfl, by simp [Text.cutBytes]⟩
  | cons c content ih =>
      intro before
      by_cases hc : c.utf8Size ≤ n
      · obtain ⟨front, hcontent, hhead⟩ := ih (n - c.utf8Size) (c :: before)
        rw [Text.cutBytes, if_pos hc]
        refine ⟨c :: front, by rw [List.cons_append, ← hcontent], fun d hd => ?_⟩
        have hd := hhead d hd
        rw [Text.byteLength_cons]
        omega
      · rw [Text.cutBytes, if_neg hc]
        refine ⟨[], rfl, fun d hd => ?_⟩
        obtain rfl : c = d := by simpa using hd
        simpa using hc

/-- A span that starts inside a character reads no text that begins with a character of ASCII. -/
theorem reads_eq {content : List Char} {name : String} {c : Char} {cs : List Char}
    (hname : name.toList = c :: cs) (hc : c.utf8Size = 1) (s : Span) :
    s.reads content name = (textAt? (encode content) s.start s.stop == some name) := by
  rw [Bool.eq_iff_iff, Span.reads, Bool.and_eq_true, beq_iff_eq, beq_iff_eq, textAt?_eq_some_iff,
    Option.isSome_iff_exists]
  simp only [Text.dropPrefixChars?_eq_some_iff]
  constructor
  · rintro ⟨hlength, rest, hrest⟩
    obtain ⟨front, hcontent, hhead⟩ := exists_fromByte s.start content
    rw [hrest] at hcontent hhead
    have hstart := hhead c (by simp [hname])
    have hfront : s.start = byteLength front := by omega
    refine ⟨front, rest, by rw [hcontent, List.append_assoc], hfront, ?_⟩
    rw [Text.byteLength_append, ← hfront, hlength]
  · rintro ⟨front, rest, hcontent, hstart, hstop⟩
    refine ⟨by rw [hstart, hstop, Text.byteLength_append], rest, ?_⟩
    rw [hcontent, hstart, List.append_assoc, Text.fromByte, Text.cutBytes_append]

theorem variableBefore?_eq_some {before : List Char} {name : String}
    (h : Cursor.variableBefore? before = some name) : ∃ cs, name.toList = '$' :: cs := by
  unfold Cursor.variableBefore? at h
  split at h
  · dsimp only at h
    split at h
    · cases h
    · obtain rfl := Option.some.inj h
      exact ⟨_, String.toList_append⟩
  · cases h

/-- **The types of a receiver are found by bytes.** -/
theorem receiverTypes_cursor (doc : Document) (content : List Char) {cursor receiver : List Char}
    (h : receiver <:+ cursor) :
    receiverTypes doc (encode content) (encode cursor.reverse) (byteLength receiver)
      = .ok (doc.receiverTypes content receiver) := by
  unfold receiverTypes Document.receiverTypes
  dsimp only
  cases doc.analysis.typedEndingAt (byteLength receiver) with
  | some t => rfl
  | none =>
      dsimp only
      rw [variableBefore_cursor h, ok_bind]
      cases hname : Cursor.variableBefore? receiver with
      | none => rfl
      | some name =>
          obtain ⟨cs, hcs⟩ := variableBefore?_eq_some hname
          simp only [reads_eq hcs rfl]
          rfl

/-! ### Completion -/

/-- The class names offered to a literal that is being typed, if its call constructs a mock. -/
def literalItems (ix : Index) (symbols : Symbols) (content before : List UInt8) :
    Except Fault (Option (List CompletionItem)) := do
  match ← openLiteral before with
  | some literal =>
    let path := symbols.imports.qualify symbols.scope literal.className
    if CallKind.ofSignature (CallSite.staticSignature path literal.method) ==
        some .mockConstruction then
      let start ← position content literal.start
      let stop ← position content before.length
      pure (some (ix.classNameItems literal.typed ⟨start, stop⟩))
    else pure none
  | none => pure none

/-- The methods of the class-likes among declarations; of methods with the same name up to ASCII
case only the first counts. -/
def methodItems (ix : Index) (declared : List Declaration) : List CompletionItem :=
  let found := (declared.filter Declaration.isClassLike).flatMap fun owner =>
    (ix.methodsOf owner.fqn).map fun method => (owner, method)
  (distinctBy (fun pair => Text.lower pair.2.name) found).map fun pair =>
    Index.methodItem pair.1 pair.2

/-- The members offered behind an arrow. -/
def memberItems (search : Search) (ix : Index) (binder : String) (doc : Option Document)
    (content before : List UInt8) : Except Fault (Option (List CompletionItem)) := do
  match ← receiverEnd before, doc with
  | some stop, some doc =>
    let types ← receiverTypes doc content before stop
    let declared ← resolveTypes search ix binder types
    match methodItems ix declared with
    | [] => pure none
    | items => pure (some items)
  | _, _ => pure none

/-- The offers at a position of a text, of which `doc` is the latest reading. -/
def completions (search : Search) (ix : Index) (binder : String) (doc : Option Document)
    (text : String) (p : Position) : Except Fault (Option (List CompletionItem)) :=
  let content := encode text.toList
  match textAt? content 0 (p.offset text.toList) with
  | some before => do
    let symbols := (doc.map Document.symbols).getD {}
    match ← literalItems ix symbols content (encode before.toList) with
    | some items => pure (some items)
    | none => memberItems search ix binder doc content (encode before.toList)
  | none => pure none

/-- **The text before a position exists.** -/
theorem textAt?_offset (content : List Char) (p : Position) :
    textAt? (encode content) 0 (p.offset content)
      = some (Cursor.forwards (Text.beforeByte (p.offset content) content)) := by
  obtain ⟨before, after, rfl, hoffset⟩ := Position.isBoundary_offset content p
  rw [hoffset, textAt?_front, Text.beforeByte_append, Cursor.forwards_reverse]

theorem literalItems_cursor (ix : Index) (symbols : Symbols) (content before : List Char) :
    literalItems ix symbols (encode content) (encode before.reverse)
      = .ok (ix.literalItems symbols content before) := by
  rw [literalItems, openLiteral_cursor, ok_bind, Index.literalItems]
  cases Cursor.openLiteral? before with
  | none => rfl
  | some literal =>
      dsimp only
      rw [position_encode, ok_bind, length_cursor, position_encode, ok_bind]
      split <;> rfl

theorem memberItems_cursor {search : Search} (h : search.FindsFirst) (ix : Index) (binder : String)
    (doc : Option Document) (content before : List Char) :
    memberItems search ix binder doc (encode content) (encode before.reverse)
      = .ok (match Cursor.receiver? before, doc with
        | some receiver, some doc =>
          match ix.memberItems binder (doc.receiverTypes content receiver) with
          | [] => none
          | items => some items
        | _, _ => none) := by
  rw [memberItems, receiverEnd_cursor, ok_bind]
  cases hreceiver : Cursor.receiver? before with
  | none => rfl
  | some receiver =>
      cases doc with
      | none => rfl
      | some doc =>
          dsimp only [Option.map_some]
          rw [receiverTypes_cursor doc content (receiver?_suffix hreceiver), ok_bind,
            resolveTypes_eq h, ok_bind]
          change (match ix.memberItems binder (doc.receiverTypes content receiver) with
            | [] => pure none
            | items => pure (some items)) = Except.ok _
          split <;> rfl

/-- **Completion goes through from every position of every text.** -/
theorem completions_eq {search : Search} (h : search.FindsFirst) (ix : Index) (binder : String)
    (doc : Option Document) (text : String) (p : Position) :
    completions search ix binder doc text p = .ok (ix.completions binder doc text p) := by
  rw [completions, textAt?_offset]
  unfold Index.completions
  dsimp only
  rw [Cursor.forwards, String.toList_ofList, literalItems_cursor, ok_bind]
  cases ix.literalItems ((doc.map Document.symbols).getD {}) text.toList
      (Text.beforeByte (p.offset text.toList) text.toList) with
  | some items => rfl
  | none => exact memberItems_cursor h ix binder doc text.toList _

/-! ### All readings -/

theorem isBoundary_lastLine (content : List Char) (n : Nat) :
    IsBoundary content (lastLine 0 (0, 0) ((encode content).take n)).2 := by
  have hstop : min n (byteLength content) ≤ byteLength content := Nat.min_le_right ..
  obtain ⟨passed, after, hcontent, -, hlast, -⟩ := exists_passed hstop
  obtain ⟨front, line, rfl, -, -, hlength⟩ := lastLine_encode passed
  have htake := List.take_eq_take_min (l := encode content) (i := n)
  rw [Utf8.length_encode] at htake
  rw [htake, hlast, ← hlength]
  exact ⟨front, line ++ after, by rw [hcontent, List.append_assoc], rfl⟩

/-- What is said of the readings by bytes: each goes through, and comes to what the characters
say. -/
structure Uncut (search : Search) : Prop where
  /-- The text before a cursor exists. -/
  beforeCursor : ∀ (content : List Char) (p : Position),
    textAt? (encode content) 0 (p.offset content)
      = some (Cursor.forwards (Text.beforeByte (p.offset content) content))
  openLiteral : ∀ text : List Char,
    Bytes.openLiteral (encode text) = .ok (Cursor.openLiteral? text.reverse)
  receiverEnd : ∀ text : List Char,
    Bytes.receiverEnd (encode text) = .ok ((Cursor.receiver? text.reverse).map byteLength)
  variableBefore : ∀ front rest : List Char,
    Bytes.variableBefore (encode (front ++ rest)) (byteLength front)
      = .ok (Cursor.variableBefore? front.reverse)
  /-- Inside a character the scan for a variable goes through as well. -/
  variableBefore_anywhere : ∀ (text : List Char) (stop : Nat),
    (∃ found, Bytes.variableBefore (encode text) stop = .ok found) ↔ stop ≤ byteLength text
  /-- A line begins between two characters, wherever in it the offset is. -/
  lineStart : ∀ (content : List Char) (n : Nat),
    IsBoundary content (lastLine 0 (0, 0) ((encode content).take n)).2
  position : ∀ (content : List Char) (n : Nat),
    Bytes.position (encode content) n = .ok (Position.ofOffset content n)
  parse : ∀ key : String, Bytes.parse search (encode key.toList) = .ok (VirtualType.parse key)
  resolveMember : ∀ (lk : Lookups) (member : String),
    Bytes.resolveMember search lk member = .ok (lk.resolveMember member)
  completions : ∀ (ix : Index) (binder : String) (doc : Option Document) (text : String)
    (p : Position),
    Bytes.completions search ix binder doc text p = .ok (ix.completions binder doc text p)

/-- **No reading by bytes cuts a character**, whatever the text, the position and the key. -/
theorem characters_uncut {search : Search} (h : search.FindsFirst) : Uncut search where
  beforeCursor := textAt?_offset
  openLiteral text := by
    have hscan := openLiteral_cursor text.reverse
    rwa [List.reverse_reverse] at hscan
  receiverEnd text := by
    have hscan := receiverEnd_cursor text.reverse
    rwa [List.reverse_reverse] at hscan
  variableBefore := variableBefore_encode
  variableBefore_anywhere _ _ := variableBefore_eq_ok_iff
  lineStart := isBoundary_lastLine
  position := position_encode
  parse := parse_encode h
  resolveMember := resolveMember_encode h
  completions := completions_eq h

/-- Wide characters on either side of what is read. -/
theorem characters_uncut_wide_characters :
    Search.inOrder.FindsFirst ∧
      openLiteral (encode "é('Größe::mock ( 'Us".toList)
        = .ok (some ⟨"e", "mock", 21, "Us"⟩) ∧
      (∃ found, variableBefore (encode "$größe".toList) 4 = .ok found) ∧
      position (encode "é\nßé".toList) 6 = .ok ⟨1, 2⟩ ∧
      parse Search.inOrder (encode "<01>é~ß~".toList) = .ok (some (.mock "é" "ß~")) := by
  have huncut := characters_uncut Search.findsFirst_inOrder
  refine ⟨Search.findsFirst_inOrder, ?_, ?_, ?_, ?_⟩
  · exact (huncut.openLiteral _).trans (by decide)
  · exact (huncut.variableBefore_anywhere _ 4).2 (by decide)
  · exact (huncut.position _ 6).trans (by decide)
  · exact (huncut.parse _).trans (by decide)

end Bytes

end MockLens
