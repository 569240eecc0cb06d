/-
**The tables of the analysis, looked up.**

A binding replaces what was bound to a name and leaves the other names alone
(`MockLens/Analysis/State.lean`).  From this the scopes in which functions start are told exactly:
a closure knows `$this` and the variables it names as far as the scope around it does, and a method
knows nothing but `$this`.

Main results:

* `Bindings.lookup_set` — one name is replaced, the others keep their types;
* `closureScope_lookup`, `methodScope_lookup` — what the body of a closure or method starts with;
* `rooted_qualify`, `rooted_declaredClass` — the name of a class starts with a backslash.
-/
import MockLens.Analysis.Walk
import MockLens.Proofs.Text

set_option autoImplicit false

namespace MockLens

namespace Analysis

/-! ### Bindings -/

namespace Bindings

@[simp] theorem lookup_empty (name : String) : lookup {} name = [] := rfl

theorem lookup_filter_ne (name other : String) (entries : List (String × Types)) :
    (entries.filter (fun e => e.1 != name)).lookup other
      = if other = name then none else entries.lookup other := by
  induction entries with
  | nil => simp
  | cons e entries ih =>
      obtain ⟨key, types⟩ := e
      by_cases hkey : key = name
      · subst hkey
        by_cases hother : other = key
        · subst hother
          rw [if_pos rfl] at ih
          simp only [List.filter_cons, bne_self_eq_false, Bool.false_eq_true, if_false, ih, if_true]
        · have hne : (other == key) = false := beq_eq_false_iff_ne.2 hother
          rw [if_neg hother] at ih
          simp only [List.filter_cons, bne_self_eq_false, Bool.false_eq_true, if_false, ih,
            if_neg hother, List.lookup_cons, hne]
      · have hkept : (key != name) = true := bne_iff_ne.2 hkey
        simp only [List.filter_cons, hkept, if_true, List.lookup_cons, ih]
        by_cases hother : other = key
        · subst hother
          simp [hkey]
        · simp [beq_eq_false_iff_ne.2 hother]

/-- **One name is replaced, the others keep their types.** -/
theorem lookup_set (b : Bindings) (name other : String) (types : Types) :
    (b.set name types).lookup other = if other = name then types else b.lookup other := by
  unfold lookup set
  cases types with
  | nil =>
      simp only [List.isEmpty_nil, if_true, lookup_filter_ne]
      split <;> rfl
  | cons t types =>
      simp only [List.isEmpty_cons, Bool.false_eq_true, if_false, List.lookup_cons,
        lookup_filter_ne]
      by_cases hother : other = name
      · simp [hother]
      · have hne : (other == name) = false := by simpa using hother
        simp [hother, hne]

end Bindings

/-! ### The scopes of functions -/

/-- What a closure starts with: of `$this` and the variables it names, the types they have. -/
theorem closureScope_lookup (st : State) (captures : List String) (name : String) :
    (closureScope st captures).lookup name
      = if name = "$this" ∨ name ∈ captures then st.lookup name else [] := by
  -- A variable without types is not entered, but then it has none in the scope built so far either.
  suffices h : ∀ (captures : List String) (b : Bindings),
      (b.lookup name = [] ∨ b.lookup name = st.lookup name) →
        (captures.foldl
          (fun b name => if (st.lookup name).isEmpty then b else b.set name (st.lookup name))
          b).lookup name = if name ∈ captures then st.lookup name else b.lookup name by
    rw [closureScope, h, Bindings.lookup_set]
    · by_cases hthis : name = "$this" <;> by_cases hmem : name ∈ captures <;> simp [hthis, hmem]
    · by_cases hthis : name = "$this" <;> simp [Bindings.lookup_set, hthis]
  intro captures
  induction captures with
  | nil => simp
  | cons captured captures ih =>
      intro b hb
      rw [List.foldl_cons]
      by_cases hempty : (st.lookup captured).isEmpty = true
      · rw [if_pos hempty, ih b hb]
        by_cases hname : name = captured
        · have hnil : st.lookup name = [] := by simpa [hname] using hempty
          have hb' : b.lookup name = [] := by simpa [hnil] using hb
          simp [hnil, hb']
        · simp [hname]
      · rw [if_neg hempty, ih]
        · by_cases hname : name = captured <;> simp [Bindings.lookup_set, hname]
        · by_cases hname : name = captured <;> simp [Bindings.lookup_set, hname, hb]

/-- What a method starts with: the class around it as the type of `$this`, unless it is static. -/
theorem methodScope_lookup (path : Option String) (isStatic : Bool) (name : String) :
    (methodScope path isStatic).lookup name
      = if name = "$this" ∧ isStatic = false then path.toList else [] := by
  cases path <;> cases isStatic <;> simp [methodScope, Bindings.lookup_set]

/-! ### Records -/

@[simp] theorem State.calls_note (st : State) (span : Span) (types : Types) :
    (st.note span types).records.calls = st.records.calls := by
  unfold note
  split <;> rfl

@[simp] theorem State.calls_noteCall (st : State) (call : Call) :
    (st.noteCall call).records.calls = st.records.calls.push call := rfl

theorem State.mem_typed_note {st : State} {span : Span} {types : Types} {entry : TypedExpr} :
    entry ∈ (st.note span types).records.typed.toList
      ↔ entry ∈ st.records.typed.toList ∨ (types ≠ [] ∧ entry = ⟨span, types⟩) := by
  unfold note
  cases types with
  | nil => simp
  | cons t types => simp

/-! ### Names of classes -/

/-- A fully qualified name starts with a backslash. -/
theorem rooted_qualify (imports : Imports) (scope : Option String) (name : String) :
    Text.startsWith "\\" (imports.qualify scope name) = true := by
  unfold Imports.qualify
  split
  · assumption
  · split
    · exact Text.startsWith_iff.2 ⟨_, String.append_assoc ..⟩
    · split
      · exact Text.startsWith_iff.2 ⟨_, by rw [String.append_assoc, String.append_assoc]⟩
      · exact Text.startsWith_iff.2 ⟨_, rfl⟩

theorem rooted_declaredClass (st : State) (name : String) :
    Text.startsWith "\\" (st.declaredClass name) = true :=
  rooted_qualify {} st.scope name

end Analysis

end MockLens
