/-
**Call classification: which calls of a program have a key, and of which kind.**

A call is classified by a text: its signature is compared with the signatures of the mocking facade
(`MockLens/CallSite.lean`).  The signature of a member call is put together from the candidate types
of its receiver, so it could spell that of a facade call; it never does, because a candidate begins
with a backslash or an angle bracket (`MockLens/Proofs/CandidateTypes.lean`).  A member call is
therefore classified by its receiver alone, a static call by its class, its method and its first
argument, and along a chain of member calls nothing changes.

Main definitions:

* `IsStub`, `StubKey` — the candidate types that a stub chain goes on from, and the key of a call
  that is classified by its receiver;
* `FacadeKey` — the key of a call that is classified by class, method and first argument;
* `chain` — a chain of member calls;
* `Classified` — the calls of a program are classified so.

Main results:

* `CallKind.ofSignature_memberSignature` — no member call is taken for a call of the facade;
* `Analysis.calls_classified` — the calls of every program are classified exactly.
-/
import MockLens.Proofs.CallSites
import MockLens.Proofs.CandidateTypes

set_option autoImplicit false

namespace MockLens

/-- The kind of the key of a call. -/
def Call.kind? (call : Call) : Option Tag :=
  (call.key.bind VirtualType.parse).map VirtualType.tag

/-! ### Stub chains -/

/-- A candidate type that a stub chain goes on from. -/
def IsStub (type : String) : Prop :=
  (∃ members, VirtualType.parse type = some (.stub members)) ∨
    VirtualType.parse type = some .stubbedMethod

theorem isStub_iff {type : String} :
    IsStub type ↔ ChainState.after (VirtualType.parse type) = .inStubChain := by
  unfold IsStub ChainState.after
  cases hparse : VirtualType.parse type with
  | none => simp
  | some v => cases v <;> simp

/-- One candidate that a stub chain goes on from is enough. -/
def HasStub (types : List String) : Prop := ∃ t ∈ types, IsStub t

theorem ChainState.ofReceiver_eq_inStubChain_iff {types : List String} :
    ChainState.ofReceiver types = .inStubChain ↔ HasStub types := by
  simp only [HasStub, isStub_iff]
  unfold ChainState.ofReceiver
  split
  · rename_i hany
    simpa using hany
  · rename_i hany
    simpa using hany

/-- The key of a call that is classified by the candidate types `types`. -/
def StubKey (types : List String) (key : Option String) : Prop :=
  (HasStub types ∧ key = some "<04>") ∨ (¬ HasStub types ∧ key = none)

theorem StubKey.hasStub_iff {types : List String} {key : Option String} (h : StubKey types key) :
    HasStub key.toList ↔ HasStub types := by
  rcases h with ⟨hstub, rfl⟩ | ⟨hno, rfl⟩
  · exact iff_of_true ⟨"<04>", by simp, .inr (by decide)⟩ hstub
  · exact iff_of_false (by simp [HasStub]) hno

theorem StubKey.congr {types types' : List String} {key : Option String} (h : StubKey types key)
    (hiff : HasStub types ↔ HasStub types') : StubKey types' key := by
  unfold StubKey at h ⊢
  rwa [← hiff]

/-! ### Signatures of member calls -/

/-- The receiver's types stand where the signature of a static call has its letter. -/
theorem CallSite.startsWith_memberSignature {receiver : List String} {name : String}
    (h : ∀ t ∈ receiver, Analysis.IsCandidate t) :
    Text.startsWith "#M#C" (memberSignature receiver name) = false := by
  rw [← Bool.not_eq_true, Text.startsWith_iff]
  rintro ⟨rest, heq⟩
  have hlist := congrArg String.toList heq
  cases receiver with
  | nil => simp [memberSignature] at hlist
  | cons t ts =>
      obtain ⟨rest, ht⟩ := (h t (List.mem_cons_self ..)).exists_cons
      have hjoin : ∃ more, "|".intercalate (t :: ts) = t ++ more := by
        cases ts with
        | nil => exact ⟨"", by simp⟩
        | cons u us => exact ⟨_, by rw [String.intercalate_cons_cons, String.append_assoc]⟩
      obtain ⟨more, hmore⟩ := hjoin
      -- behind the marker one text goes on with a backslash or a bracket, the other with a letter
      rcases ht with ht | ht <;> simp [memberSignature, hmore, ht] at hlist

theorem CallSite.startsWith_staticSignature (path name : String) :
    Text.startsWith "#M#C" (staticSignature path name) = true :=
  Text.startsWith_iff.2 ⟨_, by rw [staticSignature, String.append_assoc, String.append_assoc]⟩

theorem CallSite.memberSignature_ne_staticSignature {receiver : List String} {name : String}
    (h : ∀ t ∈ receiver, Analysis.IsCandidate t) (path name' : String) :
    memberSignature receiver name ≠ staticSignature path name' := by
  intro heq
  have hstatic := startsWith_staticSignature path name'
  rw [← heq, startsWith_memberSignature h] at hstatic
  cases hstatic

/-- **No member call is one of the facade**, whatever its receiver and its name. -/
theorem CallKind.ofSignature_memberSignature {receiver : List String} {name : String}
    (h : ∀ t ∈ receiver, Analysis.IsCandidate t) :
    ofSignature (CallSite.memberSignature receiver name) = none := by
  cases hkind : ofSignature (CallSite.memberSignature receiver name) with
  | none => rfl
  | some kind =>
      obtain ⟨m, _, heq⟩ := List.mem_map.1 (mem_of_ofSignature hkind)
      exact absurd heq.symm (CallSite.memberSignature_ne_staticSignature h _ _)

namespace Analysis

open Php (Expr Stmt Member Selector)

variable {imports : Imports}

/-! ### Arguments -/

/-- What is known of an argument that is no string literal. -/
theorem argumentsOf_cons (imports : Imports) {e : Expr} (he : ∀ s value, e ≠ .string s value)
    (arguments : List Expr) (st : State) :
    ∃ rest, (argumentsOf imports (e :: arguments) st).1
      = (if (typesOf imports e st).1.isEmpty then .other else .typed (typesOf imports e st).1)
          :: rest := by
  cases e with
  | string s value => exact absurd rfl (he s value)
  | _ =>
      rw [argumentsOf]
      · exact ⟨_, rfl⟩
      · exact he

theorem argumentsOf_literal_iff (arguments : List Expr) (st : State) :
    (∃ contents rest,
        (argumentsOf imports arguments st).1 = .literal contents :: rest ∧ contents ≠ "")
      ↔ ∃ s text rest, arguments = .string s (some text) :: rest ∧ text ≠ "" := by
  rcases arguments with _ | ⟨e, arguments⟩
  · simp [argumentsOf]
  by_cases he : ∃ s value, e = .string s value
  · obtain ⟨s, value, rfl⟩ := he
    cases value <;> simp [argumentsOf]
  · have he' : ∀ s value, e ≠ .string s value := fun s value h => he ⟨s, value, h⟩
    obtain ⟨rest, hrest⟩ := argumentsOf_cons imports he' arguments st
    rw [hrest]
    split <;> simp [he']

theorem argumentsOf_typed_iff {arguments : List Expr} {st : State} {types : Types} :
    (∃ rest, (argumentsOf imports arguments st).1 = .typed types :: rest)
      ↔ ∃ e rest, arguments = e :: rest ∧ (∀ s value, e ≠ .string s value) ∧
        (typesOf imports e st).1 = types ∧ types ≠ [] := by
  rcases arguments with _ | ⟨e, arguments⟩
  · simp [argumentsOf]
  by_cases he : ∃ s value, e = .string s value
  · obtain ⟨s, value, rfl⟩ := he
    simp [argumentsOf]
  · have he' : ∀ s value, e ≠ .string s value := fun s value h => he ⟨s, value, h⟩
    obtain ⟨rest, hrest⟩ := argumentsOf_cons imports he' arguments st
    rw [hrest]
    split
    · rename_i hempty
      have hnil : (typesOf imports e st).1 = [] := by simpa using hempty
      constructor
      · rintro ⟨_, h⟩
        cases h
      · rintro ⟨_, _, h, _, rfl, hne⟩
        obtain ⟨rfl, rfl⟩ := List.cons.inj h
        exact absurd hnil hne
    · rename_i hempty
      have hne : (typesOf imports e st).1 ≠ [] := by simpa using hempty
      constructor
      · rintro ⟨_, h⟩
        obtain ⟨h, _⟩ := List.cons.inj h
        obtain rfl := CallSite.Argument.typed.inj h
        exact ⟨e, arguments, rfl, he', rfl, hne⟩
      · rintro ⟨_, _, h, _, rfl, _⟩
        obtain ⟨rfl, rfl⟩ := List.cons.inj h
        exact ⟨rest, rfl⟩

/-! ### Keys of calls -/

/-- The key of a static call of the method `name` of the class `path`: one of the facade's three
kinds exactly when class, method and first argument are right, and never that of a stub chain. -/
structure FacadeKey (imports : Imports) (st : State) (path name : String) (arguments : List Expr)
    (call : Call) : Prop where
  mock : call.kind? = some .mock ↔
    path = "\\Phake" ∧ name ∈ ["mock", "partialMock", "partMock"] ∧
      ∃ s text rest, arguments = .string s (some text) :: rest ∧ text ≠ ""
  verification : call.kind? = some .verification ↔
    path = "\\Phake" ∧ name ∈ ["verify", "verifyStatic"] ∧
      ∃ e rest, arguments = e :: rest ∧ (∀ s value, e ≠ .string s value) ∧
        (typesOf imports e st).1 ≠ []
  stub : call.kind? = some .stub ↔
    path = "\\Phake" ∧ name ∈ ["when", "whenStatic"] ∧
      ∃ e rest, arguments = e :: rest ∧ (∀ s value, e ≠ .string s value) ∧
        (typesOf imports e st).1 ≠ []
  unchained : call.key ≠ some "<04>"
  read : call.key.isSome = call.kind?.isSome

/-- The key of the call an expression makes: that of a member call goes by its receiver, that of a
static call by its class, its method and its first argument. -/
def KeyOf (imports : Imports) (e : Expr) (st : State) (call : Call) : Prop :=
  match e with
  | .methodCall _ object _ _ =>
    call.receiverTypes = (typesOf imports object st).1 ∧ StubKey call.receiverTypes call.key
  | .staticCall _ cls (.named name) arguments =>
    ∃ path, namedClass? imports st cls = some (some path) ∧
      FacadeKey imports st path name.text arguments call
  | _ => False

/-- The key of a member call goes by the candidate types of its receiver. -/
theorem stubKey_member {receiver : Types} {name : String} {arguments : List CallSite.Argument}
    (h : ∀ t ∈ receiver, IsCandidate t) :
    StubKey receiver (CallSite.key
      ⟨CallSite.memberSignature receiver name, arguments, ChainState.ofReceiver receiver⟩) := by
  have hmember : Text.startsWith "#M#" (CallSite.memberSignature receiver name) = true := by
    rw [Text.startsWith_iff]
    exact ⟨_, by rw [CallSite.memberSignature, String.append_assoc, String.append_assoc]⟩
  by_cases hstub : HasStub receiver
  · have hchain := ChainState.ofReceiver_eq_inStubChain_iff.2 hstub
    have hvirtual : CallSite.virtualType
        ⟨CallSite.memberSignature receiver name, arguments, ChainState.ofReceiver receiver⟩
          = some .stubbedMethod := by
      simp [CallSite.virtualType, CallKind.ofSignature_memberSignature h, hmember, hchain]
    rw [CallSite.key, hvirtual]
    exact .inl ⟨hstub, by decide⟩
  · have hchain : ChainState.ofReceiver receiver ≠ .inStubChain :=
      fun hc => hstub (ChainState.ofReceiver_eq_inStubChain_iff.1 hc)
    refine .inr ⟨hstub, ?_⟩
    simp [CallSite.key, CallSite.virtualType, CallKind.ofSignature_memberSignature h, hmember,
      hchain]

/-- A verification or stub passes types on exactly when its first argument has any. -/
theorem isSome_passedTypes_argumentsOf_iff {signature : String} {arguments : List Expr}
    {st : State} {chain : ChainState}
    (h : ∀ e rest, arguments = e :: rest → (∀ s value, e ≠ .string s value) →
      ∀ t ∈ (typesOf imports e st).1, IsCandidate t) :
    (CallSite.passedTypes ⟨signature, (argumentsOf imports arguments st).1, chain⟩).isSome = true
      ↔ ∃ e rest, arguments = e :: rest ∧ (∀ s value, e ≠ .string s value) ∧
        (typesOf imports e st).1 ≠ [] := by
  rw [CallSite.isSome_passedTypes_iff]
  · constructor
    · rintro ⟨types, rest, hargs, hne⟩
      obtain ⟨e, rest', rfl, he, rfl, _⟩ := argumentsOf_typed_iff.1 ⟨rest, hargs⟩
      exact ⟨e, rest', rfl, he, hne⟩
    · rintro ⟨e, rest, rfl, he, hne⟩
      obtain ⟨rest', hrest⟩ := argumentsOf_typed_iff.2 ⟨e, rest, rfl, he, rfl, hne⟩
      exact ⟨_, rest', hrest, hne⟩
  · intro types rest hargs t ht
    obtain ⟨e, rest', rfl, he, rfl, _⟩ := argumentsOf_typed_iff.1 ⟨rest, hargs⟩
    exact (h e rest' rfl he t ht).ne_empty

/-- The key of a static call goes by its class, its method and its first argument. -/
theorem facadeKey_static {st : State} {path : String} {s : Span} {name : Php.Identifier}
    {arguments : List Expr} {literal : Option Span}
    (h : ∀ e rest, arguments = e :: rest → (∀ s value, e ≠ .string s value) →
      ∀ t ∈ (typesOf imports e st).1, IsCandidate t) :
    FacadeKey imports st path name.text arguments
      (callRecord s name ⟨CallSite.staticSignature path name.text,
        (argumentsOf imports arguments st).1, .fresh⟩ literal []) := by
  generalize hsite : (⟨CallSite.staticSignature path name.text,
    (argumentsOf imports arguments st).1, .fresh⟩ : CallSite) = site
  have hread : (callRecord s name site literal []).kind? = site.virtualType.map VirtualType.tag :=
    CallSite.map_tag_parse_key
  have hkind : ∀ kind : CallKind, (callRecord s name site literal []).kind? = some kind.tag ↔
      path = "\\Phake" ∧ name.text ∈ kind.methods ∧ site.Suits kind := by
    intro kind
    rw [hread, CallSite.tag_virtualType_eq_some_iff, ← hsite,
      CallKind.ofSignature_staticSignature_iff, and_assoc]
  have hliteral : site.Suits .mockConstruction ↔
      ∃ s text rest, arguments = .string s (some text) :: rest ∧ text ≠ "" := by
    rw [← hsite]
    exact argumentsOf_literal_iff arguments st
  have htyped : site.passedTypes.isSome = true ↔
      ∃ e rest, arguments = e :: rest ∧ (∀ s value, e ≠ .string s value) ∧
        (typesOf imports e st).1 ≠ [] := by
    rw [← hsite]
    exact isSome_passedTypes_argumentsOf_iff h
  refine ⟨?_, ?_, ?_, ?_, ?_⟩
  · rw [← hliteral]
    exact hkind .mockConstruction
  · rw [← htyped]
    exact hkind .verification
  · rw [← htyped]
    exact hkind .stub
  · -- the key of a stubbed method would be read back as one
    intro hkey
    have hchained : (callRecord s name site literal []).kind? = some .stubbedMethod := by
      rw [Call.kind?, hkey]
      decide
    have hfresh : site.chain = .fresh := by rw [← hsite]
    rw [hread] at hchained
    exact CallSite.tag_virtualType_ne_stubbedMethod hfresh hchained
  · rw [hread]
    simp [callRecord, CallSite.key]

theorem Visited.firstArgument {program : List Stmt} {e : Expr} {rest : List Expr} {st : State}
    (h : Reaches imports (.stmts program) {} (.arguments (e :: rest)) st)
    (he : ∀ s value, e ≠ .string s value) : Visited imports program e st := by
  refine h.of_below ?_
  cases e with
  | string s value => exact absurd rfl (he s value)
  | _ => simp [Node.below]

/-- Every call of a program has the key that its expression gives it. -/
theorem Visited.keyOf {program : List Stmt} {e : Expr} {st : State} {call : Call}
    (h : Visited imports program e st) (hcall : callOf? imports e st = some call) :
    KeyOf imports e st call := by
  unfold callOf? at hcall
  split at hcall
  · rename_i s cls name arguments
    split at hcall
    · rename_i path hcls
      obtain rfl := Option.some.inj hcall
      have harguments : Reaches imports (.stmts program) {} (.arguments arguments) st :=
        Reaches.of_below h (by simp [Node.below, belowExpr, hcls])
      refine ⟨path, hcls, facadeKey_static ?_⟩
      rintro e rest rfl he
      exact (Visited.firstArgument harguments he).isCandidate
    · cases hcall
  · rename_i s object name arguments
    obtain rfl := Option.some.inj hcall
    have hobject : Visited imports program object st :=
      Reaches.of_below h (by simp [Node.below, belowExpr])
    exact ⟨rfl, stubKey_member hobject.isCandidate⟩
  · cases hcall

/-! ### Chains -/

/-- A member call of a chain, less its receiver. -/
structure Link where
  span : Span
  name : Php.Identifier
  arguments : List Expr

/-- The member calls of the links, one upon the other. -/
def chain (receiver : Expr) (links : List Link) : Expr :=
  links.foldl (fun e l => .methodCall l.span e (.named l.name) l.arguments) receiver

theorem chain_append (receiver : Expr) (links more : List Link) :
    chain receiver (links ++ more) = chain (chain receiver links) more :=
  List.foldl_append

theorem Visited.of_chain {program : List Stmt} {st : State} (links : List Link) :
    ∀ {receiver : Expr}, Visited imports program (chain receiver links) st →
      Visited imports program receiver st := by
  induction links with
  | nil => exact fun h => h
  | cons l links ih =>
      intro receiver h
      exact Reaches.of_below (ih h) (by simp [Node.below, belowExpr])

/-- Along a chain nothing changes: its calls are classified by the receiver it starts from. -/
theorem hasStub_chain_iff {program : List Stmt} {st : State} (links : List Link) :
    ∀ {receiver : Expr}, Visited imports program (chain receiver links) st →
      (HasStub (typesOf imports (chain receiver links) st).1
        ↔ HasStub (typesOf imports receiver st).1) := by
  induction links with
  | nil => exact fun _ => Iff.rfl
  | cons l links ih =>
      intro receiver h
      refine (ih h).trans ?_
      -- the first call of the chain has its key as its only candidate type
      obtain ⟨hreceiver, hkey⟩ := (h.of_chain links).keyOf rfl
      rw [typesOf_of_callOf? rfl, hkey.hasStub_iff, hreceiver]

/-! ### All calls of a program -/

/-- The calls on record for a program are exactly those of its visited expressions, each has the
key that its expression gives it, and all the calls of a chain are classified by its receiver. -/
structure Classified (imports : Imports) (program : List Stmt) : Prop where
  recorded : ∀ call, call ∈ (ofStatements imports program).calls.toList ↔
    ∃ e st, Visited imports program e st ∧ callOf? imports e st = some call
  keyed : ∀ e st call, Visited imports program e st → callOf? imports e st = some call →
    KeyOf imports e st call
  chained : ∀ receiver links link more st,
    Visited imports program (chain receiver (links ++ link :: more)) st →
      ∃ call ∈ (ofStatements imports program).calls.toList,
        callOf? imports (chain receiver (links ++ [link])) st = some call ∧
          StubKey (typesOf imports receiver st).1 call.key

/-- **The calls of every program are classified exactly.** -/
theorem calls_classified (imports : Imports) (program : List Stmt) :
    Classified imports program where
  recorded := mem_calls_iff program
  keyed _ _ _ h hcall := h.keyOf hcall
  chained receiver links link more st h := by
    rw [List.append_cons, chain_append] at h
    have hupto := h.of_chain more
    rw [chain_append] at hupto ⊢
    obtain ⟨hreceiver, hkey⟩ := hupto.keyOf rfl
    refine ⟨_, (mem_calls_iff program _).2 ⟨_, st, hupto, rfl⟩, rfl, hkey.congr ?_⟩
    rw [hreceiver]
    exact hasStub_chain_iff links (hupto.of_chain [link])

end Analysis

end MockLens
