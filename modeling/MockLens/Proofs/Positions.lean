/-
**Positions and byte offsets.**

A position and a byte offset are two ways to point into a text (`MockLens/Text/Position.lean`), and
the maps between them round what lies between two characters or outside of the text.  Both are told
here from the position that a reader has reached behind the first characters of the text.  It grows
with every character, so the beginnings of a text are ordered alike by the position behind them and
by their length in bytes.  The offset of a position is the length of the longest beginning behind
which the reader has not passed the position, and the position of an offset is that behind the
shortest beginning that reaches the offset.  So the two maps are adjoint, and whatever is said of
them follows: they undo each other where nothing is rounded, and they keep the order.

Main definitions:

* `Position.next`, `Position.behind` — the position a reader has reached behind characters;
* `Position.lineAt` — a line of a text, without its line end;
* `Position.IsBoundary` — the offsets between two characters;
* `Position.Conversions` — what the two maps have to do with each other.

Main results:

* `Position.behind_le_behind_iff` — beginnings of a text ordered by position and by length;
* `Position.behind_le_iff` — the offset of a position, told by beginnings;
* `Position.ofOffset_le_iff` — **the two maps are adjoint**;
* `Position.lt_of_byteLength_lt` — offsets and positions of a text are no larger than it is long;
* `Position.conversions` — **they are inverse to each other up to clamping.**
-/
import MockLens.Text.Position
import MockLens.Proofs.Text
import Mathlib.Data.Prod.Lex
import Mathlib.Order.Monotone.Defs

set_option autoImplicit false

namespace MockLens

open Text (byteLength)

namespace Position

/-! ### The order of positions -/

/-- Line and column, the line first. -/
def key (p : Position) : Nat ×ₗ Nat := toLex (p.line, p.character)

theorem key_injective : Function.Injective key := by
  intro p q h
  cases p
  cases q
  simpa [key] using h

/-- Positions are ordered by line, then by column. -/
instance : LinearOrder Position := LinearOrder.lift' key key_injective

theorem le_iff {p q : Position} :
    p ≤ q ↔ p.line < q.line ∨ p.line = q.line ∧ p.character ≤ q.character :=
  Prod.Lex.toLex_le_toLex

theorem lt_iff {p q : Position} :
    p < q ↔ p.line < q.line ∨ p.line = q.line ∧ p.character < q.character :=
  Prod.Lex.toLex_lt_toLex

theorem origin_le (p : Position) : ⟨0, 0⟩ ≤ p := by
  rw [le_iff]
  simp only [Nat.zero_le, and_true]
  omega

/-! ### Behind characters -/

/-- The position behind a character at position `p`. -/
def next (p : Position) (c : Char) : Position :=
  if c = '\n' then ⟨p.line + 1, 0⟩ else ⟨p.line, p.character + 1⟩

/-- The position behind characters of which the first is at position `p`. -/
def behind (p : Position) (cs : List Char) : Position := cs.foldl next p

@[simp] theorem behind_nil (p : Position) : p.behind [] = p := rfl

@[simp] theorem behind_cons (p : Position) (c : Char) (cs : List Char) :
    p.behind (c :: cs) = (p.next c).behind cs := rfl

@[simp] theorem behind_append (p : Position) (as bs : List Char) :
    p.behind (as ++ bs) = (p.behind as).behind bs := List.foldl_append

theorem lt_next (p : Position) (c : Char) : p < p.next c := by
  unfold next
  split <;> simp [lt_iff]

theorem le_behind (p : Position) (cs : List Char) : p ≤ p.behind cs := by
  induction cs generalizing p with
  | nil => exact le_rfl
  | cons c cs ih => exact (lt_next p c).le.trans (ih _)

/-- Without line ends a reader stays on its line. -/
theorem behind_of_notMem {cs : List Char} (h : '\n' ∉ cs) (p : Position) :
    p.behind cs = ⟨p.line, p.character + cs.length⟩ := by
  induction cs generalizing p with
  | nil => rfl
  | cons c cs ih =>
      obtain ⟨hc, hcs⟩ := List.ne_and_not_mem_of_not_mem_cons h
      rw [behind_cons, ih hcs, next, if_neg (Ne.symm hc), List.length_cons, Nat.add_assoc,
        Nat.add_comm 1]

/-- A character takes at least a byte, and a reader passes at most one column or line by it. -/
theorem line_add_character_behind_le (p : Position) (cs : List Char) :
    (p.behind cs).line + (p.behind cs).character ≤ p.line + p.character + byteLength cs := by
  induction cs generalizing p with
  | nil => exact le_rfl
  | cons c cs ih =>
      have hrest := ih (p.next c)
      have hsize := c.utf8Size_pos
      have hnext : (p.next c).line + (p.next c).character ≤ p.line + p.character + 1 := by
        unfold next
        split
        · simp
        · simp
          omega
      rw [behind_cons, Text.byteLength_cons]
      omega

/-! ### Beginnings of a text -/

/-- **Beginnings of a text are ordered alike by the position behind them and by their length.** -/
theorem behind_le_behind_iff {content before before' : List Char} (h : before <+: content)
    (h' : before' <+: content) (p : Position) :
    p.behind before ≤ p.behind before' ↔ byteLength before ≤ byteLength before' := by
  rcases List.prefix_or_prefix_of_prefix h h' with ⟨rest, rfl⟩ | ⟨rest, rfl⟩
  · simp [le_behind]
  · cases rest with
    | nil => simp
    | cons c rest =>
        have hlt : p.behind before' < p.behind (before' ++ c :: rest) := by
          rw [behind_append, behind_cons]
          exact (lt_next _ c).trans_le (le_behind _ rest)
        have hsize := c.utf8Size_pos
        simp only [hlt.not_ge, Text.byteLength_append, Text.byteLength_cons, false_iff]
        omega

/-- Inside of a text there is a character that begins before an offset and does not end before
it. -/
theorem exists_around {content : List Char} {n : Nat} (hpos : 0 < n)
    (hn : n ≤ byteLength content) :
    ∃ before c, before ++ [c] <+: content ∧ byteLength before < n ∧
      n ≤ byteLength before + c.utf8Size := by
  induction content generalizing n with
  | nil =>
      rw [Text.byteLength_nil] at hn
      omega
  | cons c content ih =>
      rw [Text.byteLength_cons] at hn
      by_cases hc : n ≤ c.utf8Size
      · exact ⟨[], c, by simp, hpos, by simpa using hc⟩
      · obtain ⟨before, d, hbefore, hlt, hle⟩ := @ih (n - c.utf8Size) (by omega) (by omega)
        refine ⟨c :: before, d, List.cons_prefix_cons.2 ⟨rfl, hbefore⟩, ?_, ?_⟩
        · rw [Text.byteLength_cons]
          omega
        · rw [Text.byteLength_cons]
          omega

/-! ### From offsets to positions -/

theorem scan_of_le {target at_ : Nat} (h : target ≤ at_) (here : Position) (cs : List Char) :
    scan target at_ here cs = here := by
  cases cs with
  | nil => rfl
  | cons c cs => rw [scan, if_neg (Nat.not_lt.2 h)]

theorem scan_append {target at_ : Nat} {before : List Char} (h : at_ + byteLength before ≤ target)
    (here : Position) (after : List Char) :
    scan target at_ here (before ++ after)
      = scan target (at_ + byteLength before) (here.behind before) after := by
  induction before generalizing at_ here with
  | nil => rfl
  | cons c before ih =>
      rw [Text.byteLength_cons] at h ⊢
      have hsize := c.utf8Size_pos
      rw [List.cons_append, scan, if_pos (by omega), ← next, ih (by omega), behind_cons,
        Nat.add_assoc]

/-- The position of an offset between two characters. -/
theorem ofOffset_byteLength {content before : List Char} (h : before <+: content) :
    ofOffset content (byteLength before) = behind ⟨0, 0⟩ before := by
  obtain ⟨after, rfl⟩ := h
  rw [ofOffset, scan_append (by omega), scan_of_le (by omega)]

/-- An offset past the end stands for the end. -/
theorem ofOffset_of_le {content : List Char} {n : Nat} (h : byteLength content ≤ n) :
    ofOffset content n = behind ⟨0, 0⟩ content := by
  have hreach : 0 + byteLength content ≤ n := by omega
  have hscan := scan_append hreach ⟨0, 0⟩ []
  rwa [List.append_nil] at hscan

theorem ofOffset_min (content : List Char) (n : Nat) :
    ofOffset content n = ofOffset content (min n (byteLength content)) := by
  rcases le_total n (byteLength content) with hle | hle
  · rw [Nat.min_eq_left hle]
  · rw [Nat.min_eq_right hle, ofOffset_of_le hle, ofOffset_of_le le_rfl]

/-- An offset within a character stands for the place behind it. -/
theorem ofOffset_of_lt_of_le {content before : List Char} {c : Char} {n : Nat}
    (h : before ++ [c] <+: content) (hlt : byteLength before < n)
    (hle : n ≤ byteLength before + c.utf8Size) :
    ofOffset content n = behind ⟨0, 0⟩ (before ++ [c]) := by
  obtain ⟨after, rfl⟩ := h
  rw [List.append_assoc, ofOffset, scan_append (by omega), List.singleton_append, scan,
    if_pos (by omega), scan_of_le (by omega), behind_append]
  rfl

/-- The position of an offset is that behind the shortest beginning that reaches the offset. -/
theorem ofOffset_le_behind_iff {content before : List Char} {n : Nat}
    (hn : n ≤ byteLength content) (h : before <+: content) :
    ofOffset content n ≤ behind ⟨0, 0⟩ before ↔ n ≤ byteLength before := by
  rcases Nat.eq_zero_or_pos n with rfl | hpos
  · rw [ofOffset, scan_of_le le_rfl]
    simp [origin_le]
  · obtain ⟨short, c, hshort, hlt, hle⟩ := exists_around hpos hn
    rw [ofOffset_of_lt_of_le hshort hlt hle, behind_le_behind_iff hshort h]
    simp only [Text.byteLength_append, Text.byteLength_cons, Text.byteLength_nil, Nat.add_zero]
    refine ⟨hle.trans, fun hreach => ?_⟩
    -- what is not longer than `short` does not reach the offset
    rcases List.prefix_or_prefix_of_prefix hshort h with ⟨rest, rfl⟩ | hshorter
    · simp
    · rcases List.prefix_concat_iff.1 hshorter with rfl | ⟨rest, rfl⟩
      · simp
      · rw [Text.byteLength_append] at hlt
        omega

/-! ### From positions to offsets -/

/-- What lies between the position of a reader and one ahead: a number of line ends, and the number
of characters to pass behind the last of them. -/
def ahead (here p : Position) : Position :=
  ⟨p.line - here.line, if p.line = here.line then p.character - here.character else p.character⟩

/-- The walk goes on behind a character that does not lead beyond the position. -/
theorem walk_of_next_le {p here : Position} {c : Char} (h : here.next c ≤ p) (at_ : Nat)
    (cs : List Char) :
    walk at_ (here.ahead p).line (here.ahead p).character (c :: cs)
      = walk (at_ + c.utf8Size) ((here.next c).ahead p).line ((here.next c).ahead p).character
          cs := by
  rw [le_iff] at h
  by_cases hc : c = '\n'
  · simp only [next, ahead, hc, if_true] at h ⊢
    obtain ⟨line, hline⟩ : ∃ line, p.line - here.line = line + 1 :=
      ⟨p.line - here.line - 1, by omega⟩
    have hnext : p.line - (here.line + 1) = line := by omega
    have hne : p.line ≠ here.line := by omega
    simp only [hline, hnext, walk, if_true, hne, if_false, Nat.sub_zero, ite_self]
  · simp only [next, ahead, hc, if_false] at h ⊢
    by_cases hline : p.line = here.line
    · have hpos : p.character - here.character ≠ 0 := by omega
      simp only [hline, Nat.sub_self, walk, if_true, hc, or_false, hpos, if_false, Nat.sub_sub]
    · obtain ⟨line, hsub⟩ : ∃ line, p.line - here.line = line + 1 :=
        ⟨p.line - here.line - 1, by omega⟩
      simp only [hsub, walk, hc, if_false, hline]

/-- The walk ends in front of a character that leads beyond the position. -/
theorem walk_of_lt_next {p here : Position} {c : Char} (hle : here ≤ p) (hlt : p < here.next c)
    (at_ : Nat) (cs : List Char) :
    walk at_ (here.ahead p).line (here.ahead p).character (c :: cs) = at_ := by
  rw [le_iff] at hle
  rw [lt_iff] at hlt
  by_cases hc : c = '\n'
  · simp only [next, hc, if_true] at hlt
    have hline : p.line = here.line := by omega
    simp only [ahead, hline, Nat.sub_self, walk, hc, or_true, if_true]
  · simp only [next, hc, if_false] at hlt
    have hline : p.line = here.line := by omega
    have hcharacter : p.character - here.character = 0 := by omega
    simp only [ahead, hline, hcharacter, Nat.sub_self, if_true, walk, true_or]

/-- A walk passes the longest beginning that does not lead beyond the position. -/
theorem exists_walk_eq (p : Position) (cs : List Char) {here : Position} (h : here ≤ p)
    (at_ : Nat) :
    ∃ before after, cs = before ++ after ∧
      walk at_ (here.ahead p).line (here.ahead p).character cs = at_ + byteLength before ∧
      here.behind before ≤ p ∧ ∀ c ∈ after.head?, p < (here.behind before).next c := by
  induction cs generalizing at_ here with
  | nil => exact ⟨[], [], rfl, rfl, h, by simp⟩
  | cons c cs ih =>
      rcases le_or_gt (here.next c) p with hnext | hnext
      · obtain ⟨before, after, rfl, hwalk, hbehind, hafter⟩ := ih hnext (at_ + c.utf8Size)
        refine ⟨c :: before, after, rfl, ?_, hbehind, hafter⟩
        rw [walk_of_next_le hnext, hwalk, Text.byteLength_cons, Nat.add_assoc]
      · exact ⟨[], c :: cs, rfl, walk_of_lt_next h hnext at_ cs, h, by simpa using hnext⟩

theorem exists_offset_eq (content : List Char) (p : Position) :
    ∃ before after, content = before ++ after ∧ offset content p = byteLength before ∧
      behind ⟨0, 0⟩ before ≤ p ∧ ∀ c ∈ after.head?, p < (behind ⟨0, 0⟩ before).next c := by
  obtain ⟨before, after, hcontent, hwalk, hbehind, hafter⟩ :=
    exists_walk_eq p content (origin_le p) 0
  refine ⟨before, after, hcontent, ?_, hbehind, hafter⟩
  simpa [offset, ahead] using hwalk

/-- **The offset of a position is the length of the longest beginning that does not lead beyond
it.** -/
theorem behind_le_iff {content before : List Char} (h : before <+: content) (p : Position) :
    behind ⟨0, 0⟩ before ≤ p ↔ byteLength before ≤ offset content p := by
  obtain ⟨long, after, rfl, hoffset, hlong, hafter⟩ := exists_offset_eq content p
  have hprefix : long <+: long ++ after := List.prefix_append ..
  rw [hoffset, ← behind_le_behind_iff h hprefix ⟨0, 0⟩]
  refine ⟨fun hle => ?_, fun hle => hle.trans hlong⟩
  rcases List.prefix_or_prefix_of_prefix h hprefix with ⟨rest, rfl⟩ | ⟨rest, rfl⟩
  · simp [le_behind]
  · cases rest with
    | nil => simp
    | cons c rest =>
        -- one more character than `long` leads beyond the position already
        have hhead : c ∈ after.head? := by
          obtain ⟨more, hmore⟩ := (List.prefix_append_right_inj long).1 h
          simp [← hmore]
        rw [behind_append, behind_cons] at hle
        exact absurd ((hafter c hhead).trans_le (le_behind _ rest)) hle.not_gt

theorem offset_eq_byteLength {content before : List Char} {p : Position} (h : before <+: content)
    (hle : behind ⟨0, 0⟩ before ≤ p)
    (hlt : ∀ c, before ++ [c] <+: content → p < behind ⟨0, 0⟩ (before ++ [c])) :
    offset content p = byteLength before := by
  obtain ⟨long, after, rfl, hoffset, hlong, -⟩ := exists_offset_eq content p
  have hprefix : long <+: long ++ after := List.prefix_append ..
  refine le_antisymm ?_ ((behind_le_iff h p).1 hle)
  rw [hoffset, ← behind_le_behind_iff hprefix h ⟨0, 0⟩]
  rcases List.prefix_or_prefix_of_prefix h hprefix with ⟨rest, rfl⟩ | ⟨rest, rfl⟩
  · cases rest with
    | nil => simp
    | cons c rest =>
        have hmore : before ++ [c] <+: before ++ c :: rest := by simp
        have hbeyond := (hlt c (hmore.trans hprefix)).trans_le
          ((behind_le_behind_iff hmore List.prefix_rfl ⟨0, 0⟩).2 (by simp))
        exact absurd hlong hbeyond.not_ge
  · simp [le_behind]

/-! ### The two maps -/

/-- **The two maps are adjoint**: an offset of the text is at most that of a position exactly when
its own position is at most that position. -/
theorem ofOffset_le_iff (content : List Char) (n : Nat) (p : Position) :
    ofOffset content n ≤ p ↔ min n (byteLength content) ≤ offset content p := by
  obtain ⟨long, after, hcontent, hoffset, -⟩ := exists_offset_eq content p
  have hlong : long <+: content := ⟨after, hcontent.symm⟩
  have hn : min n (byteLength content) ≤ byteLength content := Nat.min_le_right ..
  rw [ofOffset_min]
  rcases Nat.eq_zero_or_pos (min n (byteLength content)) with hzero | hpos
  · rw [hzero, ofOffset, scan_of_le le_rfl]
    simp [origin_le]
  · obtain ⟨short, c, hshort, hlt, hle⟩ := exists_around hpos hn
    -- both offsets are measured by beginnings, and between those there is no other
    rw [hoffset, ← ofOffset_le_behind_iff hn hlong, ofOffset_of_lt_of_le hshort hlt hle,
      behind_le_iff hshort, behind_le_behind_iff hshort hlong, hoffset]

theorem offset_le (content : List Char) (p : Position) : offset content p ≤ byteLength content := by
  obtain ⟨before, after, rfl, hoffset, -⟩ := exists_offset_eq content p
  rw [hoffset, Text.byteLength_append]
  exact Nat.le_add_right ..

theorem offset_mono (content : List Char) : Monotone (offset content) := by
  intro p q hpq
  have hclamp := Nat.min_eq_left (offset_le content p)
  have hp : ofOffset content (offset content p) ≤ p := by
    rw [ofOffset_le_iff, hclamp]
  have hq := (ofOffset_le_iff content _ q).1 (hp.trans hpq)
  rwa [hclamp] at hq

theorem ofOffset_mono (content : List Char) : Monotone (ofOffset content) := by
  intro n m hnm
  rw [ofOffset_le_iff]
  have hm := (ofOffset_le_iff content m _).1 le_rfl
  omega

theorem offset_behind {content before : List Char} (h : before <+: content) :
    offset content (behind ⟨0, 0⟩ before) = byteLength before := by
  refine offset_eq_byteLength h le_rfl fun c _ => ?_
  rw [behind_append]
  exact lt_next _ c

/-! ### Lines -/

/-- A line of a text, without its line end. -/
def lineAt (content : List Char) (n : Nat) : Option (List Char) :=
  (Text.splitChars '\n' content)[n]?

theorem lineAt_of_notMem {content : List Char} (h : '\n' ∉ content) (n : Nat) :
    lineAt content n = if n = 0 then some content else none := by
  rw [lineAt, Text.splitChars_of_notMem h]
  cases n <;> simp

theorem lineAt_append {line : List Char} (h : '\n' ∉ line) (rest : List Char) (n : Nat) :
    lineAt (line ++ '\n' :: rest) n = if n = 0 then some line else lineAt rest (n - 1) := by
  rw [lineAt, Text.splitChars_append_cons, Text.splitChars_of_notMem h]
  cases n <;> simp [lineAt]

theorem behind_line {line : List Char} (h : '\n' ∉ line) (rest : List Char) (p : Position) :
    p.behind (line ++ '\n' :: rest) = behind ⟨p.line + 1, 0⟩ rest := by
  rw [behind_append, behind_of_notMem h, behind_cons, next, if_pos rfl]

/-- Where a line is in its text: a reader who has passed as many line ends is in front of it, and
behind it is a line end or the end of the text. -/
theorem exists_of_lineAt {content line : List Char} {n : Nat} (h : lineAt content n = some line)
    (first : Nat) :
    ∃ before after, content = before ++ line ++ after ∧
      behind ⟨first, 0⟩ before = ⟨first + n, 0⟩ ∧ '\n' ∉ line ∧ ∀ c ∈ after.head?, c = '\n' := by
  induction n generalizing content first with
  | zero =>
      by_cases hmem : '\n' ∈ content
      · obtain ⟨start, rest, rfl, hstart⟩ := List.eq_append_cons_of_mem hmem
        obtain rfl : start = line := by simpa [lineAt_append hstart] using h
        exact ⟨[], '\n' :: rest, by simp, rfl, hstart, by simp⟩
      · obtain rfl : content = line := by simpa [lineAt_of_notMem hmem] using h
        exact ⟨[], [], by simp, rfl, hmem, by simp⟩
  | succ n ih =>
      by_cases hmem : '\n' ∈ content
      · obtain ⟨start, rest, rfl, hstart⟩ := List.eq_append_cons_of_mem hmem
        rw [lineAt_append hstart, if_neg (by omega), Nat.add_sub_cancel] at h
        obtain ⟨before, after, rfl, hbefore, hline, hafter⟩ := ih h (first + 1)
        refine ⟨start ++ '\n' :: before, after, by simp, ?_, hline, hafter⟩
        rw [behind_line hstart, hbefore, Nat.add_right_comm, Nat.add_assoc]
      · simp [lineAt_of_notMem hmem] at h

theorem line_behind_lt {content : List Char} {n : Nat} (h : lineAt content n = none)
    (first : Nat) : (behind ⟨first, 0⟩ content).line < first + n := by
  induction n generalizing content first with
  | zero =>
      by_cases hmem : '\n' ∈ content
      · obtain ⟨start, rest, rfl, hstart⟩ := List.eq_append_cons_of_mem hmem
        simp [lineAt_append hstart] at h
      · simp [lineAt_of_notMem hmem] at h
  | succ n ih =>
      by_cases hmem : '\n' ∈ content
      · obtain ⟨start, rest, rfl, hstart⟩ := List.eq_append_cons_of_mem hmem
        rw [lineAt_append hstart, if_neg (by omega), Nat.add_sub_cancel] at h
        have hrest := ih h (first + 1)
        simp only [behind_line hstart]
        omega
      · rw [behind_of_notMem hmem]
        simp

/-- On a line of the text the column is cut off at the end of the line. -/
theorem ofOffset_offset_of_lineAt {content line : List Char} {p : Position}
    (h : lineAt content p.line = some line) :
    ofOffset content (offset content p) = ⟨p.line, min p.character line.length⟩ := by
  obtain ⟨before, after, rfl, hbefore, hline, hafter⟩ := exists_of_lineAt h 0
  have htake : ∀ k, '\n' ∉ line.take k := fun k hmem => hline (List.mem_of_mem_take hmem)
  have hbehind : ∀ k, behind ⟨0, 0⟩ (before ++ line.take k) = ⟨p.line, min k line.length⟩ := by
    intro k
    rw [behind_append, hbefore, behind_of_notMem (htake k), List.length_take, Nat.zero_add,
      Nat.zero_add]
  have hprefix : before ++ line.take p.character <+: before ++ line ++ after := by
    rw [List.append_assoc, List.prefix_append_right_inj]
    exact (List.take_prefix ..).trans (List.prefix_append ..)
  have hoffset : offset (before ++ line ++ after) p
      = byteLength (before ++ line.take p.character) := by
    refine offset_eq_byteLength hprefix ?_ fun c hc => ?_
    · rw [hbehind, le_iff]
      simp
    · -- one character more is one column too many, or it is the end of the line
      rw [behind_append, hbehind, behind_cons, behind_nil, lt_iff]
      rcases Nat.lt_or_ge p.character line.length with hlt | hge
      · by_cases hnl : c = '\n'
        · simp [next, hnl]
        · simp [next, hnl]
          omega
      · rw [List.take_of_length_le hge, List.prefix_append_right_inj] at hc
        obtain ⟨more, rfl⟩ := hc
        obtain rfl : c = '\n' := hafter c (by simp)
        simp [next]
  rw [hoffset, ofOffset_byteLength hprefix, hbehind]

/-- A position behind the last line stands for the end of the text. -/
theorem offset_of_lineAt_eq_none {content : List Char} {p : Position}
    (h : lineAt content p.line = none) : offset content p = byteLength content := by
  have hline := line_behind_lt h 0
  refine offset_eq_byteLength List.prefix_rfl ?_ fun c hc => ?_
  · rw [le_iff]
    exact .inl (by omega)
  · have hlength := hc.length_le
    rw [List.length_append, List.length_singleton] at hlength
    omega

/-! ### Conversions -/

/-- An offset between two characters of a text, or at one of its ends. -/
def IsBoundary (content : List Char) (n : Nat) : Prop :=
  ∃ before after, content = before ++ after ∧ n = byteLength before

theorem isBoundary_offset (content : List Char) (p : Position) :
    IsBoundary content (offset content p) := by
  obtain ⟨before, after, hcontent, hoffset, -⟩ := exists_offset_eq content p
  exact ⟨before, after, hcontent, hoffset⟩

/-- A position is that behind a beginning of the text. -/
theorem exists_ofOffset_eq (content : List Char) (n : Nat) :
    ∃ before, before <+: content ∧ ofOffset content n = behind ⟨0, 0⟩ before := by
  rcases le_or_gt (byteLength content) n with hle | hlt
  · exact ⟨content, List.prefix_rfl, ofOffset_of_le hle⟩
  · rcases Nat.eq_zero_or_pos n with rfl | hpos
    · exact ⟨[], List.nil_prefix, ofOffset_byteLength List.nil_prefix⟩
    · obtain ⟨before, c, hprefix, hbefore, hn⟩ := exists_around hpos hlt.le
      exact ⟨before ++ [c], hprefix, ofOffset_of_lt_of_le hprefix hbefore hn⟩

theorem line_add_character_ofOffset_le (content : List Char) (n : Nat) :
    (ofOffset content n).line + (ofOffset content n).character ≤ byteLength content := by
  obtain ⟨before, ⟨after, rfl⟩, hposition⟩ := exists_ofOffset_eq content n
  have hbehind := line_add_character_behind_le ⟨0, 0⟩ before
  rw [hposition, Text.byteLength_append]
  simp only [Nat.zero_add] at hbehind
  omega

/-- Offsets and the numbers of a position fit where the length of the text does: 32 bits are enough
for a text of fewer than `2 ^ 32` bytes. -/
theorem lt_of_byteLength_lt {content : List Char} {bound : Nat} (h : byteLength content < bound)
    (p : Position) (n : Nat) :
    offset content p < bound ∧ (ofOffset content n).line < bound ∧
      (ofOffset content n).character < bound := by
  have hnumbers := line_add_character_ofOffset_le content n
  exact ⟨(offset_le content p).trans_lt h, by omega, by omega⟩

/-- What the two maps of a text have to do with each other. -/
structure Conversions (content : List Char) : Prop where
  offset_le : ∀ p, offset content p ≤ byteLength content
  isBoundary_offset : ∀ p, IsBoundary content (offset content p)
  offset_ofOffset : ∀ n, IsBoundary content n → offset content (ofOffset content n) = n
  /-- An offset past the end behaves as the end. -/
  ofOffset_past : ∀ n, byteLength content ≤ n →
    ofOffset content n = ofOffset content (byteLength content)
  /-- An offset within a character gives the position of the next boundary. -/
  ofOffset_within : ∀ before c after, content = before ++ c :: after →
    ∀ n, byteLength before < n → n < byteLength before + c.utf8Size →
      ofOffset content n = ofOffset content (byteLength before + c.utf8Size)
  /-- On a line of the text the column is cut off at the end of the line. -/
  ofOffset_offset : ∀ p line, lineAt content p.line = some line →
    ofOffset content (offset content p) = ⟨p.line, min p.character line.length⟩
  /-- A position behind the last line comes back as that of the end. -/
  ofOffset_offset_past : ∀ p, lineAt content p.line = none →
    ofOffset content (offset content p) = ofOffset content (byteLength content)
  offset_mono : Monotone (offset content)
  ofOffset_mono : Monotone (ofOffset content)
  /-- Lines and columns are no larger than the text is long. -/
  ofOffset_bounded : ∀ n,
    (ofOffset content n).line + (ofOffset content n).character ≤ byteLength content

/-- **The conversions are inverse to each other up to clamping.** -/
theorem conversions (content : List Char) : Conversions content where
  offset_le := offset_le content
  isBoundary_offset := isBoundary_offset content
  offset_ofOffset n h := by
    obtain ⟨before, after, rfl, rfl⟩ := h
    have hbefore : before <+: before ++ after := List.prefix_append ..
    rw [ofOffset_byteLength hbefore, offset_behind hbefore]
  ofOffset_past n h := by rw [ofOffset_of_le h, ofOffset_of_le le_rfl]
  ofOffset_within before c after h n hlt hle := by
    have hprefix : before ++ [c] <+: content := ⟨after, by simp [h]⟩
    have hend : byteLength before + c.utf8Size = byteLength (before ++ [c]) := by simp
    rw [ofOffset_of_lt_of_le hprefix hlt hle.le, hend, ofOffset_byteLength hprefix]
  ofOffset_offset _ _ h := ofOffset_offset_of_lineAt h
  ofOffset_offset_past _ h := by rw [offset_of_lineAt_eq_none h]
  offset_mono := offset_mono content
  ofOffset_mono := ofOffset_mono content
  ofOffset_bounded := line_add_character_ofOffset_le content

end Position

end MockLens
