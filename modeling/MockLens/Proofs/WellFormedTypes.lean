/-
**Well-formed types: what every string in a state of the analysis is.**

`MockLens/Proofs/CandidateTypes.lean` shows that a candidate type is a rooted class name or a key.
The two exclude each other, because one begins with a backslash and the other with an angle bracket,
and neither is empty.  Moreover the records fit together: a typed expression has a type, and a call
that has a key is a typed expression whose only type is that key.  All of this is true wherever a
visit begins or ends.

Main definitions:

* `WellShaped` — a rooted class name or a key, but not both, and not empty;
* `WellFormed` — a state in which every type is well shaped and the records fit together.

Main results:

* `IsCandidate.wellShaped` — candidates are well shaped;
* `Reaches.linked` — a call that has a key is on record with it;
* `wellFormed_throughout` — the state is well formed throughout an analysis.
-/
import MockLens.Proofs.CandidateTypes
import Mathlib.Logic.Basic

set_option autoImplicit false

namespace MockLens

namespace Analysis

open Php (Expr Stmt)

/-! ### Shapes -/

/-- A class name that starts with a backslash or a key that can be read back, never both, and never
the empty text. -/
structure WellShaped (type : String) : Prop where
  either : Xor (Text.startsWith "\\" type = true) ((VirtualType.parse type).isSome = true)
  ne_empty : type ≠ ""

theorem IsCandidate.wellShaped {type : String} (h : IsCandidate type) : WellShaped type := by
  refine ⟨?_, h.ne_empty⟩
  have hnotBoth :
      ¬ (Text.startsWith "\\" type = true ∧ (VirtualType.parse type).isSome = true) := by
    rintro ⟨hrooted, hkey⟩
    -- the first character would be a backslash and an angle bracket
    obtain ⟨rest, rfl⟩ := Text.startsWith_iff.1 hrooted
    obtain ⟨tag, payload, heq⟩ := VirtualType.exists_tag_of_isSome_parse hkey
    have hlist := congrArg String.toList heq
    cases tag <;> simp [Tag.text] at hlist
  rcases h with hrooted | hkey
  · exact .inl ⟨hrooted, fun hkey => hnotBoth ⟨hrooted, hkey⟩⟩
  · exact .inr ⟨hkey, fun hrooted => hnotBoth ⟨hrooted, hkey⟩⟩

/-! ### Calls and typed expressions -/

/-- The records of a state fit together: every typed expression has a type, the key of a call can be
read back, and a call that has one is a typed expression whose only type is that key. -/
structure Linked (st : State) : Prop where
  typed : ∀ entry ∈ st.records.typed.toList, entry.types ≠ []
  keyed : ∀ call ∈ st.records.calls.toList, ∀ key, call.key = some key →
    (VirtualType.parse key).isSome = true ∧ ⟨call.span, [key]⟩ ∈ st.records.typed.toList

namespace Linked

variable {imports : Imports} {st : State}

theorem initial : Linked {} := ⟨by simp, by simp⟩

theorem note (h : Linked st) (span : Span) (types : Types) : Linked (st.note span types) := by
  refine ⟨fun entry hentry => ?_, fun call hcall key hkey => ?_⟩
  · rcases State.mem_typed_note.1 hentry with hentry | ⟨hne, rfl⟩
    · exact h.typed entry hentry
    · exact hne
  · rw [State.calls_note] at hcall
    obtain ⟨hread, hentry⟩ := h.keyed call hcall key hkey
    exact ⟨hread, State.mem_typed_note.2 (.inl hentry)⟩

/-- What a visit does before its own record leaves the calls alone. -/
theorem act (h : Linked st) {done : List (Node × State)} {st' : State}
    (ha : Act imports none done st st') : Linked st' := by
  cases ha with
  | note span _ => exact h.note span _
  | noteCall hcall _ => cases hcall
  | bindProperty _ _ =>
      unfold State.bindProperty
      split <;> exact ⟨h.typed, h.keyed⟩
  | _ => exact ⟨h.typed, h.keyed⟩

/-- A call is recorded together with its key. -/
theorem recorded (h : Linked st) {call? : Option Call}
    (hread : ∀ call, call? = some call → ∀ key, call.key = some key →
      (VirtualType.parse key).isSome = true) : Linked (st.recorded call?) := by
  cases call? with
  | none => exact h
  | some call =>
      refine ⟨fun entry hentry => ?_, fun call' hcall' key hkey => ?_⟩
      · rcases State.mem_typed_note.1 hentry with hentry | ⟨hne, rfl⟩
        · exact h.typed entry hentry
        · exact hne
      · rw [State.recorded, State.calls_note, State.calls_noteCall, Array.toList_push,
          List.mem_append, List.mem_singleton] at hcall'
        rcases hcall' with hcall' | rfl
        · obtain ⟨hread, hentry⟩ := h.keyed call' hcall' key hkey
          exact ⟨hread, State.mem_typed_note.2 (.inl hentry)⟩
        · exact ⟨hread _ rfl key hkey, State.mem_typed_note.2 (.inr (by simp [hkey]))⟩

end Linked

variable {imports : Imports}

/-- **The records fit together throughout an analysis.** -/
theorem Reaches.linked {root : Node} {start : State} (hstart : Linked start) {n : Node} {st : State}
    (h : Reaches imports root start n st) : Linked st ∧ Linked (n.run imports st) := by
  refine h.holds (fun {n st} _ hbelow hst => ?_) hstart
  obtain ⟨before, hcourse, hrun⟩ := n.exists_recorded imports st
  obtain ⟨hbefore, hvisits⟩ :=
    hcourse.preserves (fun _ ha hs => hs.act ha) hbelow (by simp) hst
  rw [hrun]
  exact ⟨hbefore.recorded fun _ hcall _ hkey => isSome_parse_key_of_callOf? hcall hkey, hvisits⟩

/-! ### Well-formed states -/

/-- Every type that a state holds is well shaped, every typed expression has a type, and every call
that has a key is a typed expression whose only type is that key, which can be read back. -/
structure WellFormed (st : State) : Prop where
  scopes : ∀ b ∈ st.scopes, ∀ name, ∀ t ∈ b.lookup name, WellShaped t
  properties : ∀ b ∈ st.properties, ∀ name, ∀ t ∈ b.lookup name, WellShaped t
  receivers : ∀ call ∈ st.records.calls.toList, ∀ t ∈ call.receiverTypes, WellShaped t
  typed : ∀ entry ∈ st.records.typed.toList,
    entry.types ≠ [] ∧ ∀ t ∈ entry.types, WellShaped t
  keyed : ∀ call ∈ st.records.calls.toList, ∀ key, call.key = some key →
    (VirtualType.parse key).isSome = true ∧ ⟨call.span, [key]⟩ ∈ st.records.typed.toList

theorem WellTyped.wellFormed {st : State} (h : WellTyped st) (hlinked : Linked st) :
    WellFormed st where
  scopes b hb name t ht := (h.scopes b hb name t ht).wellShaped
  properties b hb name t ht := (h.properties b hb name t ht).wellShaped
  receivers call hcall t ht := (h.calls call hcall t ht).wellShaped
  typed entry hentry :=
    ⟨hlinked.typed entry hentry, fun t ht => (h.typed entry hentry t ht).wellShaped⟩
  keyed := hlinked.keyed

/-- **Throughout an analysis the state is well formed**: where visits begin, and where they end. -/
theorem wellFormed_throughout {program : List Stmt} {n : Node} {st : State}
    (h : Reaches imports (.stmts program) {} n st) :
    WellFormed st ∧ WellFormed (n.run imports st) := by
  obtain ⟨hbegin, hend⟩ := h.wellTyped
  obtain ⟨hlinkedBegin, hlinkedEnd⟩ := h.linked .initial
  exact ⟨hbegin.wellFormed hlinkedBegin, hend.wellFormed hlinkedEnd⟩

/-- The statement `$m = Phake::mock('A');`. -/
def mocking : Stmt :=
  .evaluate .drop [.assign ⟨0, 21⟩ true (.var ⟨0, 2⟩ "$m")
    (.staticCall ⟨5, 21⟩ (.name ⟨5, 10⟩ "Phake") (.named ⟨"mock", ⟨12, 16⟩⟩)
      [.string ⟨17, 20⟩ (some "A")])]

/-- The statement `Phake::verify($m)->run();`. -/
def verifying : Stmt :=
  .evaluate .drop [.methodCall ⟨23, 47⟩
    (.staticCall ⟨23, 40⟩ (.name ⟨23, 28⟩ "Phake") (.named ⟨"verify", ⟨30, 36⟩⟩)
      [.var ⟨37, 39⟩ "$m"])
    (.named ⟨"run", ⟨42, 45⟩⟩) []]

/-- A mock that is verified: the state is well formed before and behind the verification, where two
calls with keys are on record. -/
theorem wellFormed_verification :
    let before := visit {} mocking {}
    let after := visit {} verifying before
    Reaches {} (.stmts [mocking, verifying]) {} (.stmt verifying) before ∧
      after.records.calls.toList.map Call.key
        = [some "<01>#M#C\\Phake.mock~A", some "<02><01>#M#C\\Phake.mock~A", none] ∧
      WellFormed before ∧ WellFormed after := by
  intro before after
  have hreaches : Reaches {} (.stmts [mocking, verifying]) {} (.stmt verifying) before := by
    have hrest : Reaches {} (.stmts [mocking, verifying]) {} (.stmts [verifying]) before :=
      .step (by simp [Node.below, before]) (.refl _ _)
    exact hrest.of_below (by simp [Node.below])
  have hkeys : after.records.calls.toList.map Call.key
      = [some "<01>#M#C\\Phake.mock~A", some "<02><01>#M#C\\Phake.mock~A", none] := by
    decide +kernel
  obtain ⟨hbefore, hafter⟩ := wellFormed_throughout hreaches
  exact ⟨hreaches, hkeys, hbefore, hafter⟩

end Analysis

end MockLens
