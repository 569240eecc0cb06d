/-
**Candidate types are rooted class names and keys.**

The analysis hands candidate types from variable to variable, joins them and writes them into
signatures, without ever looking at what they are.  This module shows what they are: throughout the
analysis of any program each of them is either a class name that starts with a backslash or a key
that can be read back, and it is never empty.

Main definitions:

* `IsCandidate` — a rooted class name or a key;
* `WellTyped` — a state in which every type is one of these.

Main results:

* `WellTyped.act` — every act keeps a state well typed;
* `Visited.wellTyped`, `Visited.isCandidate` — so every state of an analysis is, and every
  expression yields candidate types.
-/
import MockLens.Proofs.CallSites
import MockLens.Proofs.Courses

set_option autoImplicit false

namespace MockLens

namespace Analysis

open Php (Expr Stmt Member Selector)

/-! ### Candidate types -/

/-- A class name that starts with a backslash, or a key that can be read back. -/
def IsCandidate (type : String) : Prop :=
  Text.startsWith "\\" type = true ∨ (VirtualType.parse type).isSome = true

/-- A candidate begins with a backslash or with an angle bracket. -/
theorem IsCandidate.exists_cons {type : String} (h : IsCandidate type) :
    ∃ rest, type.toList = '\\' :: rest ∨ type.toList = '<' :: rest := by
  rcases h with h | h
  · obtain ⟨rest, rfl⟩ := Text.startsWith_iff.1 h
    exact ⟨rest.toList, .inl (by simp)⟩
  · obtain ⟨tag, payload, rfl⟩ := VirtualType.exists_tag_of_isSome_parse h
    refine ⟨(tag.text ++ payload).toList.tail, .inr ?_⟩
    cases tag <;> simp [Tag.text]

theorem IsCandidate.ne_empty {type : String} (h : IsCandidate type) : type ≠ "" := by
  rintro rfl
  obtain ⟨rest, h | h⟩ := h.exists_cons <;> simp at h

theorem mem_unite {first second : Types} {t : String} :
    t ∈ unite first second ↔ t ∈ first ∨ t ∈ second := by
  unfold unite
  induction second generalizing first with
  | nil => simp
  | cons s second ih =>
      rw [List.foldl_cons, ih]
      by_cases hs : s ∈ first
      · have hcontains : first.contains s = true := by simpa using hs
        rw [if_pos hcontains, List.mem_cons]
        constructor
        · rintro (h | h)
          · exact .inl h
          · exact .inr (.inr h)
        · rintro (h | rfl | h)
          · exact .inl h
          · exact .inl hs
          · exact .inr h
      · have hcontains : ¬ first.contains s = true := by simpa using hs
        rw [if_neg hcontains, List.mem_append, List.mem_singleton, List.mem_cons, or_assoc]

/-! ### Well typed states -/

/-- Every type in a table is a candidate. -/
def Bindings.WellTyped (b : Bindings) : Prop := ∀ name, ∀ t ∈ b.lookup name, IsCandidate t

/-- Every type that a state holds is a candidate, and every class around the place is rooted. -/
structure WellTyped (st : State) : Prop where
  classes : ∀ path, some path ∈ st.classes → Text.startsWith "\\" path = true
  properties : ∀ b ∈ st.properties, b.WellTyped
  scopes : ∀ b ∈ st.scopes, b.WellTyped
  calls : ∀ call ∈ st.records.calls.toList, ∀ t ∈ call.receiverTypes, IsCandidate t
  typed : ∀ entry ∈ st.records.typed.toList, ∀ t ∈ entry.types, IsCandidate t

namespace Bindings

theorem WellTyped.empty : WellTyped {} := by
  intro name t ht
  simp at ht

theorem WellTyped.set {b : Bindings} (h : b.WellTyped) (name : String) {types : Types}
    (htypes : ∀ t ∈ types, IsCandidate t) : (b.set name types).WellTyped := by
  intro other t ht
  rw [lookup_set] at ht
  split at ht
  · exact htypes t ht
  · exact h other t ht

end Bindings

namespace WellTyped

variable {st : State}

theorem initial : WellTyped {} where
  classes := by simp
  properties := by simp
  scopes := by simpa using Bindings.WellTyped.empty
  calls := by simp
  typed := by simp

theorem innermost (h : WellTyped st) : st.innermost.WellTyped := by
  unfold State.innermost
  cases hscopes : st.scopes with
  | nil => exact Bindings.WellTyped.empty
  | cons b _ => exact h.scopes b (by simp [hscopes])

theorem lookup (h : WellTyped st) (name : String) : ∀ t ∈ st.lookup name, IsCandidate t :=
  h.innermost name

theorem lookupProperty (h : WellTyped st) (name : String) :
    ∀ t ∈ st.lookupProperty name, IsCandidate t := by
  unfold State.lookupProperty
  cases hproperties : st.properties with
  | nil => exact Bindings.WellTyped.empty name
  | cons b _ => exact h.properties b (by simp [hproperties]) name

theorem currentClass (h : WellTyped st) {path : String} (hpath : st.currentClass = some path) :
    Text.startsWith "\\" path = true := by
  unfold State.currentClass at hpath
  cases hclasses : st.classes with
  | nil => simp [hclasses] at hpath
  | cons c _ =>
      have hc : c = some path := by simpa [hclasses] using hpath
      exact h.classes path (by simp [hclasses, hc])

theorem classReference (h : WellTyped st) {imports : Imports} {name path : String}
    (hpath : st.classReference imports name = some path) :
    Text.startsWith "\\" path = true := by
  unfold State.classReference at hpath
  split at hpath
  · exact h.currentClass hpath
  · split at hpath
    · cases hpath
    · obtain rfl := Option.some.inj hpath
      exact rooted_qualify ..

theorem namedClass? (h : WellTyped st) {imports : Imports} {e : Expr} {path : String}
    (hpath : namedClass? imports st e = some (some path)) :
    Text.startsWith "\\" path = true := by
  unfold Analysis.namedClass? at hpath
  split at hpath
  · exact h.classReference (Option.some.inj hpath)
  · exact h.currentClass (Option.some.inj hpath)
  · exact h.currentClass (Option.some.inj hpath)
  · cases hpath

theorem hintTypes (h : WellTyped st) (imports : Imports) (hint : Php.Hint) :
    ∀ t ∈ st.hintTypes imports hint, IsCandidate t := by
  intro t ht
  obtain ⟨name, _, hname⟩ := List.mem_filterMap.1 ht
  exact .inl (h.classReference hname)

theorem note (h : WellTyped st) (span : Span) {types : Types}
    (htypes : ∀ t ∈ types, IsCandidate t) : WellTyped (st.note span types) := by
  unfold State.note
  split
  · exact h
  · refine ⟨h.classes, h.properties, h.scopes, h.calls, ?_⟩
    intro entry hentry
    rw [Array.toList_push, List.mem_append, List.mem_singleton] at hentry
    rcases hentry with hentry | rfl
    · exact h.typed entry hentry
    · exact htypes

theorem noteCall (h : WellTyped st) {call : Call}
    (hreceiver : ∀ t ∈ call.receiverTypes, IsCandidate t) : WellTyped (st.noteCall call) := by
  refine ⟨h.classes, h.properties, h.scopes, ?_, h.typed⟩
  intro call' hcall'
  rw [State.calls_noteCall, Array.toList_push, List.mem_append, List.mem_singleton] at hcall'
  rcases hcall' with hcall' | rfl
  · exact h.calls call' hcall'
  · exact hreceiver

theorem bind (h : WellTyped st) (name : String) {types : Types}
    (htypes : ∀ t ∈ types, IsCandidate t) : WellTyped (st.bind name types) := by
  refine ⟨h.classes, h.properties, ?_, h.calls, h.typed⟩
  exact List.forall_mem_cons.2
    ⟨h.innermost.set name htypes, fun b hb => h.scopes b (List.mem_of_mem_tail hb)⟩

theorem bindProperty (h : WellTyped st) (name : String) {types : Types}
    (htypes : ∀ t ∈ types, IsCandidate t) : WellTyped (st.bindProperty name types) := by
  unfold State.bindProperty
  split
  · exact h
  · rename_i table outer hproperties
    have htables := List.forall_mem_cons.1 (hproperties ▸ h.properties)
    refine ⟨h.classes, ?_, h.scopes, h.calls, h.typed⟩
    exact List.forall_mem_cons.2 ⟨htables.1.set name htypes, htables.2⟩

theorem enterScope (h : WellTyped st) {bound : Bindings} (hbound : bound.WellTyped) :
    WellTyped (st.enterScope bound) :=
  ⟨h.classes, h.properties, List.forall_mem_cons.2 ⟨hbound, h.scopes⟩, h.calls, h.typed⟩

theorem leaveScope (h : WellTyped st) : WellTyped st.leaveScope :=
  ⟨h.classes, h.properties, fun b hb => h.scopes b (List.mem_of_mem_tail hb), h.calls, h.typed⟩

theorem enterClass (h : WellTyped st) {path : Option String}
    (hpath : ∀ p, path = some p → ∃ name, p = st.declaredClass name) :
    WellTyped (st.enterClass path) := by
  refine ⟨?_, List.forall_mem_cons.2 ⟨.empty, h.properties⟩, h.scopes, h.calls, h.typed⟩
  intro p hp
  rcases List.mem_cons.1 hp with hp | hp
  · obtain ⟨name, rfl⟩ := hpath p hp.symm
    exact rooted_declaredClass st name
  · exact h.classes p hp

theorem leaveClass (h : WellTyped st) : WellTyped st.leaveClass :=
  ⟨fun p hp => h.classes p (List.mem_of_mem_tail hp),
    fun b hb => h.properties b (List.mem_of_mem_tail hb), h.scopes, h.calls, h.typed⟩

end WellTyped

/-! ### Acts on well typed states -/

variable {imports : Imports}

theorem noted_recorded (span : Span) (result : Types × State) :
    (noted span result).1 = [] ∨
      ⟨span, (noted span result).1⟩ ∈ (noted span result).2.records.typed.toList := by
  unfold noted State.note
  split
  · rename_i hempty
    exact .inl (by simpa using hempty)
  · exact .inr (by simp)

/-- The candidate types of an expression, if it has any, are recorded when it is visited. -/
theorem typesOf_recorded (imports : Imports) (e : Expr) (st : State) :
    (typesOf imports e st).1 = [] ∨
      ⟨e.span, (typesOf imports e st).1⟩ ∈ (typesOf imports e st).2.records.typed.toList := by
  cases e with
  | assign s plain target value =>
      rw [typesOf]
      generalize (if plain then Target.of target else .other) = change
      cases change <;> exact noted_recorded s _
  | staticCall s cls method arguments =>
      rw [typesOf]
      split
      · exact noted_recorded s _
      · exact .inl rfl
  | property s nullsafe object selector =>
      rw [typesOf]
      split
      · exact noted_recorded s _
      · exact .inl rfl
  | _ =>
      rw [typesOf]
      first
        | exact noted_recorded _ _
        | exact .inl rfl

/-- The types a visit has at hand are candidates. -/
theorem Known.isCandidate {call? : Option Call} {done : List (Node × State)} {st : State}
    {types : Types} (h : Known imports call? done st types) (hst : WellTyped st)
    (hdone : ∀ v ∈ done, WellTyped (v.1.run imports v.2))
    (hkey : ∀ call, call? = some call → ∀ key, call.key = some key → IsCandidate key) :
    ∀ t ∈ types, IsCandidate t := by
  induction h with
  | nothing => simp
  | @visited e st' hmem =>
      -- what an expression yields is on record behind it, and that state is well typed
      intro t ht
      rcases typesOf_recorded imports e st' with hnil | hrecorded
      · simp [hnil] at ht
      · exact (hdone _ hmem).typed _ hrecorded t ht
  | bound name => exact hst.lookup name
  | property name => exact hst.lookupProperty name
  | named hpath => simpa using .inl (hst.namedClass? hpath)
  | declared st' name => simpa using .inl (rooted_declaredClass st' name)
  | hint h => exact hst.hintTypes imports h
  | united _ _ ih ih' =>
      intro t ht
      rcases mem_unite.1 ht with ht | ht
      · exact ih t ht
      · exact ih' t ht
  | @key call hcall =>
      intro t ht
      exact hkey call hcall t (by simpa using ht)

/-- **Every act keeps a state well typed.** -/
theorem WellTyped.act {call? : Option Call} {done : List (Node × State)} {st st' : State}
    (h : WellTyped st) (ha : Act imports call? done st st')
    (hdone : ∀ v ∈ done, WellTyped (v.1.run imports v.2))
    (hkey : ∀ call, call? = some call → ∀ key, call.key = some key → IsCandidate key) :
    WellTyped st' := by
  have known : ∀ {types}, Known imports call? done st types → ∀ t ∈ types, IsCandidate t :=
    fun hknown => hknown.isCandidate h hdone hkey
  cases ha with
  | note span hknown => exact h.note span (known hknown)
  | noteCall _ hknown => exact h.noteCall (known hknown)
  | bind name hknown => exact h.bind name (known hknown)
  | bindProperty name hknown => exact h.bindProperty name (known hknown)
  | enterScope hknown => exact h.enterScope fun name => known (hknown name)
  | leaveScope => exact h.leaveScope
  | enterClass hpath => exact h.enterClass hpath
  | leaveClass => exact h.leaveClass
  | rescope scope => exact ⟨h.classes, h.properties, h.scopes, h.calls, h.typed⟩

/-! ### Every state of an analysis -/

/-- The key of a call that is recorded can be read back. -/
theorem isSome_parse_key_of_callOf? {n : Node} {st : State} {call : Call}
    (h : n.callOf? imports st = some call) {key : String} (hkey : call.key = some key) :
    (VirtualType.parse key).isSome = true := by
  cases n with
  | expr e =>
      rw [Node.callOf?] at h
      unfold callOf? at h
      split at h
      · split at h
        · obtain rfl := Option.some.inj h
          exact CallSite.isSome_parse_key hkey
        · cases h
      · obtain rfl := Option.some.inj h
        exact CallSite.isSome_parse_key hkey
      · cases h
  | _ => cases h

/-- **Throughout an analysis the state is well typed**: where visits begin, and where they end. -/
theorem Reaches.wellTyped {program : List Stmt} {n : Node} {st : State}
    (h : Reaches imports (.stmts program) {} n st) :
    WellTyped st ∧ WellTyped (n.run imports st) :=
  h.preserves
    (fun _ hdone ha hs => hs.act ha hdone fun _ hcall _ hkey =>
      .inr (isSome_parse_key_of_callOf? hcall hkey))
    .initial

/-- **Every visited expression yields candidate types.** -/
theorem Visited.isCandidate {program : List Stmt} {e : Expr} {st : State}
    (h : Visited imports program e st) : ∀ t ∈ (typesOf imports e st).1, IsCandidate t := by
  intro t ht
  rcases typesOf_recorded imports e st with hnil | hrecorded
  · simp [hnil] at ht
  · exact (Reaches.wellTyped h).2.typed _ hrecorded t ht

end Analysis

end MockLens
