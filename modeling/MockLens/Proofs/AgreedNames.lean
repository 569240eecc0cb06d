/-
**Agreed names: a class-like has one name in declarations, analysis and index.**

The name of a class-like is put together twice, once for its declaration (`MockLens/Symbols.lean`)
and once, with a backslash in front, where the analysis enters it (`MockLens/Analysis/Walk.lean`);
each of the two walks keeps track of the namespace by itself, and the index takes the backslash off
again (`MockLens/Index.lean`).  Here the three are held against each other.  Both walks meet the
same class-likes in the same namespaces, so the analysis knows a class-like by its declared name
behind a backslash: as the class of `$this` where the body of a method begins, and as `self` and
`static` wherever the body does not enter another class-like.  The index finds the declarations
under that name, as long as the declared name does not begin with a backslash of its own, as it does
in a namespace written with one.

Main definitions:

* `declaredAt` — the declared class-likes with the states in which they are visited;
* `Within` — the visits below a visit that stay in the class-like around it;
* `OwnClass` — what `self` and `static` stand for in a state;
* `NamesAgree`, `NamesAgreeIn` — the agreement for one class-like, and for a file.

Main results:

* `map_fst_declaredAt` — both walks meet the same class-likes in the same namespaces;
* `Within.classes` — the class around a place stays the same within it;
* `names_agree` — **declarations, analysis and index agree on the names of all class-likes**;
* `rooted_namespace_not_found` — a namespace in which the index finds nothing.
-/
import MockLens.Document
import MockLens.Proofs.ClassReferences
import MockLens.Proofs.Courses
import MockLens.Proofs.IndexRuns
import MockLens.Proofs.OfferedNames
import MockLens.Proofs.Parameters
import MockLens.Proofs.ParsedNames

set_option autoImplicit false

namespace MockLens

namespace Analysis

open Php (ClassLike Expr Member Stmt classLikesOf classLikesWithin classLikesWithinStmt)

/-! ### Declared class-likes -/

mutual

/-- The class-likes that a statement declares, each with the state in which it is visited. -/
def declaredAtStmt (imports : Imports) : Stmt → State → List (ClassLike × State)
  | .scope name body, st => declaredAt imports body { st with scope := namedScope name }
  | .classLike kind name members, st => [(⟨st.scope, kind, name, members⟩, st)]
  | _, _ => []

/-- The class-likes that statements declare, each with the state in which it is visited. -/
def declaredAt (imports : Imports) : List Stmt → State → List (ClassLike × State)
  | [], _ => []
  | s :: ss, st => declaredAtStmt imports s st ++ declaredAt imports ss (visit imports s st)

end

variable {imports : Imports}

mutual

theorem map_fst_declaredAtStmt (s : Stmt) (st : State) :
    (declaredAtStmt imports s st).map Prod.fst = classLikesWithinStmt st.scope s := by
  cases s with
  | scope name body => exact map_fst_declaredAt body { st with scope := namedScope name }
  | _ => rfl

/-- **Both walks meet the same class-likes in the same namespaces.** -/
theorem map_fst_declaredAt (ss : List Stmt) (st : State) :
    (declaredAt imports ss st).map Prod.fst = classLikesWithin st.scope ss := by
  cases ss with
  | nil => rfl
  | cons s ss =>
      rw [declaredAt, List.map_append, map_fst_declaredAtStmt s, map_fst_declaredAt ss,
        scope_visit, classLikesWithin]

end

mutual

theorem reaches_of_mem_declaredAtStmt {c : ClassLike} {st' : State} (s : Stmt) {st : State}
    (h : (c, st') ∈ declaredAtStmt imports s st) :
    c.scope = st'.scope ∧ Reaches imports (.stmt s) st (.stmt c.stmt) st' := by
  cases s with
  | scope name body =>
      obtain ⟨hscope, hreach⟩ := reaches_of_mem_declaredAt body h
      exact ⟨hscope, .step (List.mem_singleton_self _) hreach⟩
  | classLike kind name members =>
      obtain ⟨rfl, rfl⟩ := Prod.mk.inj (List.mem_singleton.1 h)
      exact ⟨rfl, .refl _ _⟩
  | _ => cases h

/-- A declared class-like is visited, in the namespace it is declared in. -/
theorem reaches_of_mem_declaredAt {c : ClassLike} {st' : State} (ss : List Stmt) {st : State}
    (h : (c, st') ∈ declaredAt imports ss st) :
    c.scope = st'.scope ∧ Reaches imports (.stmts ss) st (.stmt c.stmt) st' := by
  cases ss with
  | nil => cases h
  | cons s ss =>
      rcases List.mem_append.1 h with h | h
      · obtain ⟨hscope, hreach⟩ := reaches_of_mem_declaredAtStmt s h
        exact ⟨hscope, .step (by simp [Node.below]) hreach⟩
      · obtain ⟨hscope, hreach⟩ := reaches_of_mem_declaredAt ss h
        exact ⟨hscope, .step (by simp [Node.below]) hreach⟩

end

/-! ### Within a class-like -/

theorem classes_typesOf (e : Expr) (st : State) : (typesOf imports e st).2.classes = st.classes :=
  (inStep_typesOf imports e (.refl st)).states.left.classes

theorem classes_visitParts (es : List Expr) (st : State) :
    (visitParts imports es st).classes = st.classes :=
  (inStep_visitParts imports es (.refl st)).left.classes

theorem classes_argumentsOf (es : List Expr) (st : State) :
    (argumentsOf imports es st).2.classes = st.classes :=
  (inStep_argumentsOf imports es (.refl st)).states.left.classes

theorem classes_visit (s : Stmt) (st : State) : (visit imports s st).classes = st.classes :=
  (inStep_visit imports s (.refl st)).left.classes

theorem classes_visitAll (ss : List Stmt) (st : State) :
    (visitAll imports ss st).classes = st.classes :=
  (inStep_visitAll imports ss (.refl st)).left.classes

theorem classes_entered (bound : Bindings) (parameters : List Php.Parameter) (st : State) :
    (entered imports bound parameters st).classes = st.classes :=
  (InStep.entered (InStep.refl st).place imports (.refl bound) parameters).left.classes

/-- The direct visits of an expression that stay in the class-like around it: all but those of the
members of an anonymous class. -/
def withinExpr (imports : Imports) : Expr → State → List (Node × State)
  | .newAnonymous _ arguments _, st => [(.arguments arguments, st)]
  | e, st => belowExpr imports e st

/-- The direct visits of a statement that stay in the class-like around it: all but those of the
members of a nested class-like. -/
def withinStmt (imports : Imports) : Stmt → State → List (Node × State)
  | .classLike _ _ _, _ => []
  | s, st => belowStmt imports s st

/-- The direct visits of a node that stay in the class-like around it. -/
def Node.within (imports : Imports) : Node → State → List (Node × State)
  | .expr e, st => withinExpr imports e st
  | .stmt s, st => withinStmt imports s st
  | n, st => n.below imports st

/-- A visit happens below another one, with no class-like entered on the way. -/
inductive Within (imports : Imports) : Node → State → Node → State → Prop
  | refl (n : Node) (st : State) : Within imports n st n st
  | step {n m k : Node} {st st' st'' : State} :
      (m, st') ∈ n.within imports st → Within imports m st' k st'' → Within imports n st k st''

theorem classes_of_mem_withinExpr (e : Expr) (st : State) :
    ∀ v ∈ withinExpr imports e st, v.2.classes = st.classes := by
  cases e with
  | assign _ plain target value =>
      rw [withinExpr, belowExpr]
      · split <;> simp [classes_typesOf]
      · simp
  | staticCall _ cls _ arguments =>
      rw [withinExpr, belowExpr]
      · split <;> simp [classes_typesOf]
      · simp
  | _ => simp [withinExpr, belowExpr, classes_typesOf, classes_entered]

theorem classes_of_mem_withinStmt (s : Stmt) (st : State) :
    ∀ v ∈ withinStmt imports s st, v.2.classes = st.classes := by
  cases s with
  | classLike _ _ _ => simp [withinStmt]
  | _ =>
      simp [withinStmt, belowStmt, classes_typesOf, classes_entered, classes_visitParts,
        classes_visitAll]

theorem classes_of_mem_within (n : Node) (st : State) :
    ∀ v ∈ n.within imports st, v.2.classes = st.classes := by
  cases n with
  | expr e => exact classes_of_mem_withinExpr e st
  | stmt s => exact classes_of_mem_withinStmt s st
  | parts es => cases es <;> simp [Node.within, Node.below, classes_typesOf]
  | stmts ss => cases ss <;> simp [Node.within, Node.below, classes_visit]
  | arguments es =>
      cases es with
      | nil => simp [Node.within, Node.below]
      | cons e es =>
          -- a string literal is passed over, any other argument is visited
          cases e <;> simp [Node.within, Node.below, classes_typesOf]

/-- **The class around a place stays the same within it.** -/
theorem Within.classes {n m : Node} {st st' : State} (h : Within imports n st m st') :
    st'.classes = st.classes := by
  induction h with
  | refl => rfl
  | step hmem _ ih => exact ih.trans (classes_of_mem_within _ _ _ hmem)

theorem classes_bindMembers (members : List Member) (st : State) :
    (members.foldl (State.bindMember imports) st).classes = st.classes :=
  (ScopesKept.bindMembers imports members (.refl (InStep.refl st).place)).left.classes

theorem classes_visitMembers (path : Option String) (members : List Member) (st : State) :
    (visitMembers imports path members st).classes = st.classes :=
  (scopesKept_visitMembers imports path members (.refl (InStep.refl st).place)).left.classes

/-! ### `self` and `static` -/

/-- The words that stand for the class-like around a place. -/
def isOwnWord (name : String) : Bool :=
  Text.sameFold name "self" || Text.sameFold name "static"

/-- An expression that stands for the class-like around it. -/
def isOwnClass : Expr → Bool
  | .name _ text => isOwnWord text
  | .classWord _ .self => true
  | .classWord _ .static => true
  | _ => false

/-- `self` and `static` stand for the class `path` in a state, wherever they may be written: in the
hint of a property or parameter, behind `new`, and in front of a static method. -/
structure OwnClass (imports : Imports) (path : String) (st : State) : Prop where
  reference : ∀ word, isOwnWord word = true → st.classReference imports word = some path
  hint : ∀ hint, ∀ word ∈ Php.hintClassNames hint.text, isOwnWord word = true →
    path ∈ st.hintTypes imports hint
  parameter : ∀ bound parameters name hint, hintFor name parameters = some hint →
    ∀ word ∈ Php.hintClassNames hint.text, isOwnWord word = true →
      path ∈ (entered imports bound parameters st).lookup name
  new : ∀ span cls arguments, isOwnClass cls = true →
    (typesOf imports (.new span cls arguments) st).1 = [path]
  staticCall : ∀ span cls name arguments, isOwnClass cls = true →
    ∃ call, callOf? imports (.staticCall span cls (.named name) arguments) st = some call ∧
      call.signature = CallSite.staticSignature path name.text

theorem namedClass?_of_isOwnClass {cls : Expr} (h : isOwnClass cls = true) (st : State) :
    namedClass? imports st cls = some st.currentClass := by
  cases cls with
  | name _ text =>
      have hword : isOwnWord text = true := h
      rw [isOwnWord] at hword
      rw [namedClass?, State.classReference, if_pos hword]
  | classWord _ word =>
      cases word with
      | self => rfl
      | static => rfl
      | parent => cases h
  | _ => cases h

/-- **`self` and `static` stand for the innermost class-like.** -/
theorem ownClass_of_currentClass {path : String} {st : State}
    (h : st.currentClass = some path) : OwnClass imports path st := by
  have hreference : ∀ word, isOwnWord word = true →
      st.classReference imports word = some path := by
    intro word hword
    rw [isOwnWord] at hword
    rw [State.classReference, if_pos hword, h]
  have hhint : ∀ hint, ∀ word ∈ Php.hintClassNames hint.text, isOwnWord word = true →
      path ∈ st.hintTypes imports hint := by
    intro hint word hmem hword
    exact List.mem_filterMap.2 ⟨word, hmem, hreference word hword⟩
  constructor
  · exact hreference
  · exact hhint
  · intro bound parameters name hint hfor word hmem hword
    rw [lookup_entered, hfor]
    exact hhint hint word hmem hword
  · intro span cls arguments hcls
    -- the class is looked up behind the arguments, which leave the class-like as it is
    have hbehind : (argumentsOf imports arguments st).2.currentClass = some path := by
      rw [State.currentClass, classes_argumentsOf]
      exact h
    rw [typesOf, namedClass?_of_isOwnClass hcls, hbehind]
    rfl
  · intro span cls name arguments hcls
    exact ⟨_, by rw [callOf?, namedClass?_of_isOwnClass hcls, h], rfl⟩

theorem ownClass_of_classes {path : String} {outer : List (Option String)} {st : State}
    (h : st.classes = some path :: outer) : OwnClass imports path st := by
  refine ownClass_of_currentClass ?_
  rw [State.currentClass, h]
  rfl

/-! ### The name of a class-like in the analysis -/

/-- The name of a class-like in the analysis is the declared one behind a backslash. -/
theorem declaredClass_eq {c : ClassLike} {st : State} (hscope : c.scope = st.scope)
    (hbare : '\\' ∉ c.name.text.toList) : st.declaredClass c.name.text = "\\" ++ c.path := by
  have hunrooted : ¬ Text.startsWith "\\" c.name.text = true := by
    rw [Text.startsWith_iff]
    rintro ⟨rest, hrest⟩
    rw [hrest] at hbare
    simp at hbare
  rw [State.declaredClass, ClassLike.path, hscope]
  unfold Imports.qualify
  rw [if_neg hunrooted]
  cases st.scope with
  | none => rfl
  | some ns => simp [Imports.find?, declaredName, String.append_assoc]

/-- The state in which a class-like visits what stands behind the members `before`. -/
def behindMembers (imports : Imports) (path : String) (c : ClassLike) (before : List Member)
    (st : State) : State :=
  visitMembers imports (some path) before (seeded imports (some path) c.members st)

/-- Inside, the class-like `c` that is visited in the state `st` is known by the name `path`. -/
structure KnownAs (imports : Imports) (c : ClassLike) (st : State) (path : String) : Prop where
  /-- The class-like is entered by this name for the visit of its members. -/
  entry : visit imports c.stmt st = (behindMembers imports path c c.members st).leaveClass
  /-- It is `self` and `static` in the hints of properties, -/
  properties : ∀ before : List Member,
    OwnClass imports path (before.foldl (State.bindMember imports) (st.enterClass (some path)))
  /-- in the hints of the parameters of methods, -/
  parameters : ∀ before, OwnClass imports path (behindMembers imports path c before st)
  /-- and in the bodies of methods, outside of class-likes nested in them. -/
  bodies : ∀ v ∈ Node.below imports (.stmt c.stmt) st, ∀ n st',
    Within imports v.1 v.2 n st' → OwnClass imports path st'
  /-- The body of a method starts with it as the class of `$this`, unless the method is static or
  has a hint for a parameter of that name. -/
  this : ∀ before name isStatic parameters body after,
    c.members = before ++ .method name isStatic parameters body :: after →
      let outside := behindMembers imports path c before st
      let inside := entered imports (methodScope (some path) isStatic) parameters outside
      (.stmts body, inside) ∈ Node.below imports (.stmt c.stmt) st ∧
        inside.lookup "$this" = ((hintFor "$this" parameters).map (outside.hintTypes imports)).getD
          (if isStatic then [] else [path])

theorem classes_of_mem_belowMembers {path : Option String} (members : List Member) {st : State} :
    ∀ v ∈ belowMembers imports path members st, v.2.classes = st.classes := by
  induction members generalizing st with
  | nil => simp [belowMembers]
  | cons m members ih =>
      cases m with
      | method name isStatic parameters body =>
          have hmethod :
              (visitMember imports path (.method name isStatic parameters body) st).classes
                = st.classes :=
            classes_visitMembers path [.method name isStatic parameters body] st
          rw [belowMembers, List.forall_mem_cons]
          exact ⟨classes_entered _ _ _, fun v hv => (ih v hv).trans hmethod⟩
      | property _ _ => exact ih
      | other => exact ih

/-- The body of a method is visited behind the members that stand in front of it. -/
theorem mem_belowMembers {path : Option String} {name : Php.Identifier} {isStatic : Bool}
    {parameters : List Php.Parameter} {body : List Stmt} {members : List Member}
    (before : List Member) {after : List Member} (st : State)
    (h : members = before ++ .method name isStatic parameters body :: after) :
    (.stmts body, entered imports (methodScope path isStatic) parameters
        (visitMembers imports path before st)) ∈ belowMembers imports path members st := by
  subst h
  induction before generalizing st with
  | nil => exact List.mem_cons_self
  | cons m before ih =>
      cases m with
      | method _ _ _ _ => exact List.mem_cons_of_mem _ (ih _)
      | property _ _ => exact ih st
      | other => exact ih st

section Visit

variable (imports) {c : ClassLike} (hkind : c.kind ≠ .interface) (st : State)

include hkind

theorem visit_classLike :
    visit imports c.stmt st
      = (behindMembers imports (st.declaredClass c.name.text) c c.members st).leaveClass := by
  obtain ⟨scope, kind, name, members⟩ := c
  cases kind with
  | interface => exact absurd rfl hkind
  | _ =>
      simp only [ClassLike.stmt, visit]
      rfl

theorem below_classLike :
    Node.below imports (.stmt c.stmt) st
      = belowMembers imports (some (st.declaredClass c.name.text)) c.members
          (seeded imports (some (st.declaredClass c.name.text)) c.members st) := by
  obtain ⟨scope, kind, name, members⟩ := c
  cases kind with
  | interface => exact absurd rfl hkind
  | _ => rfl

end Visit

/-- **Inside, a class-like is known by its declared name behind a backslash.** -/
theorem knownAs_path {c : ClassLike} {st : State} (hscope : c.scope = st.scope)
    (hbare : '\\' ∉ c.name.text.toList) (hkind : c.kind ≠ .interface) :
    KnownAs imports c st ("\\" ++ c.path) := by
  have hpath := declaredClass_eq hscope hbare
  have hvisit := visit_classLike imports hkind st
  have hbelow := below_classLike imports hkind st
  rw [hpath] at hvisit hbelow
  generalize "\\" ++ c.path = path at hvisit hbelow ⊢
  have hseeded : (seeded imports (some path) c.members st).classes = some path :: st.classes :=
    classes_bindMembers _ _
  constructor
  · exact hvisit
  · intro before
    exact ownClass_of_classes (classes_bindMembers before _)
  · intro before
    exact ownClass_of_classes ((classes_visitMembers _ before _).trans hseeded)
  · intro v hv n st' hwithin
    rw [hbelow] at hv
    have hbody := (classes_of_mem_belowMembers c.members v hv).trans hseeded
    exact ownClass_of_classes (hwithin.classes.trans hbody)
  · intro before name isStatic parameters body after hmembers outside inside
    constructor
    · rw [hbelow]
      exact mem_belowMembers before _ hmembers
    · rw [lookup_entered, methodScope_lookup]
      cases isStatic <;> rfl

end Analysis

/-! ### The declared name -/

namespace Php

mutual

theorem scope_ne_empty_of_mem_classLikesWithinStmt {scope : Option String} {c : ClassLike}
    (s : Stmt) (hscope : scope ≠ some "") (h : c ∈ classLikesWithinStmt scope s) :
    c.scope ≠ some "" := by
  cases s with
  | scope name body =>
      refine scope_ne_empty_of_mem_classLikesWithin body ?_ h
      rw [namedScope]
      intro hname
      simp [Option.filter_eq_some_iff] at hname
  | classLike kind name members =>
      obtain rfl := List.mem_singleton.1 h
      exact hscope
  | _ => cases h

/-- No class-like stands in a namespace without a name. -/
theorem scope_ne_empty_of_mem_classLikesWithin {scope : Option String} {c : ClassLike}
    (ss : List Stmt) (hscope : scope ≠ some "") (h : c ∈ classLikesWithin scope ss) :
    c.scope ≠ some "" := by
  cases ss with
  | nil => cases h
  | cons s ss =>
      rcases List.mem_append.1 h with h | h
      · exact scope_ne_empty_of_mem_classLikesWithinStmt s hscope h
      · exact scope_ne_empty_of_mem_classLikesWithin ss hscope h

end

namespace ClassLike

variable {c : ClassLike}

/-- The short name is the last segment of the declared name. -/
theorem shortName_path (hbare : '\\' ∉ c.name.text.toList) : shortName c.path = c.name.text := by
  rw [path]
  cases c.scope with
  | none => exact Index.shortName_eq_self (by simpa [Text.hasChar, declaredName] using hbare)
  | some ns =>
      have hcut : Text.cutLast '\\' (ns ++ "\\" ++ c.name.text) = some (ns, c.name.text) :=
        Text.cutLast_append hbare ns
      rw [shortName, Text.afterLast, declaredName, hcut]
      rfl

/-- The declared name begins with a backslash only in a namespace that is written with one. -/
theorem unrooted_path (hbare : '\\' ∉ c.name.text.toList) (hscope : c.scope ≠ some "")
    (hwritten : ∀ ns, c.scope ≠ some ("\\" ++ ns)) : Text.startsWith "\\" c.path = false := by
  rw [← Bool.not_eq_true, Text.startsWith_iff]
  rintro ⟨rest, hrest⟩
  rw [path] at hrest
  cases hns : c.scope with
  | none =>
      rw [hns] at hrest
      have htext : c.name.text = "\\" ++ rest := hrest
      simp [htext] at hbare
  | some ns =>
      rw [hns, declaredName, ← String.toList_inj] at hrest
      cases hchars : ns.toList with
      | nil =>
          have hempty : ns = "" := String.toList_inj.1 hchars
          exact hscope (by rw [hns, hempty])
      | cons first others =>
          have hfirst : first = '\\' := by
            have hhead := congrArg List.head? hrest
            simpa [hchars] using hhead
          have hrooted : ns = "\\" ++ String.ofList others := by
            simp [← String.toList_inj, hchars, hfirst]
          exact hwritten _ (by rw [hns, hrooted])

theorem map_methods (uri : String) (content : List Char) :
    (c.methods uri content).map (fun d => (d.kind, d.owner, d.name, d.fqn))
      = c.methodNames.map fun n => (.method, some c.path, n.text, c.path ++ "::" ++ n.text) := by
  rw [methods, methodNames, List.map_filterMap, List.map_filterMap]
  refine List.filterMap_congr fun m _ => ?_
  cases m <;> rfl

theorem of_mem_methods {uri : String} {content : List Char} {d : Declaration}
    (h : d ∈ c.methods uri content) : d.kind = .method ∧ d.owner = some c.path := by
  obtain ⟨m, -, hm⟩ := List.mem_filterMap.1 h
  cases m with
  | method _ _ _ _ =>
      obtain rfl := Option.some.inj hm
      exact ⟨rfl, rfl⟩
  | property _ _ => cases hm
  | other => cases hm

end ClassLike

end Php

/-! ### The index -/

namespace Index

open Php (ClassLike)

/-- The declarations given for a file stay together. -/
theorem isInfix_declarationsOf_update (ix : Index) (file : String) (ds : List Declaration) :
    ds <:+: declarationsOf (ix.update file ds).files := by
  have hmem : (file, ds) ∈ (ix.update file ds).files.toList :=
    Std.TreeMap.mem_toList_iff_getElem?_eq_some.2 Std.TreeMap.getElem?_insert_self
  obtain ⟨before, after, hsplit⟩ := List.append_of_mem hmem
  refine ⟨before.flatMap Prod.snd, after.flatMap Prod.snd, ?_⟩
  rw [declarationsOf, hsplit, List.flatMap_append, List.flatMap_cons, List.append_assoc]

/-- A backslash in front makes another key of a name that begins with one already. -/
theorem pathKey_ne_of_rooted (rest : String) :
    pathKey ("\\" ++ rest) ≠ pathKey ("\\" ++ ("\\" ++ rest)) := by
  rw [pathKey_backslash, pathKey_backslash, Text.lower, Text.lower]
  intro hsame
  have hlength := congrArg List.length (String.ofList_injective hsame)
  simp at hlength

section Updated

variable (ix : Index) (file : String) {ds : List Declaration} {c : ClassLike} {uri : String}
  {content : List Char}

/-- What a file declares is found by its declared name behind a backslash, unless that name begins
with a backslash already. -/
theorem found_of_unrooted (hds : c.declarations uri content <:+: ds)
    (hkind : c.kind.isClassLike = true) (hpath : Text.startsWith "\\" c.path = false) :
    c.declaration uri content ∈ (ix.update file ds).classLikesAt ("\\" ++ c.path) ∧
      c.methods uri content <:+: (ix.update file ds).methodsOf ("\\" ++ c.path) := by
  have hall := hds.trans (isInfix_declarationsOf_update ix file ds)
  have hfilled : (ix.update file ds).IsFilled := rfl
  have hkey := pathKey_rooted c.path hpath
  constructor
  · rw [hfilled.classLikesAt_eq, Reference.classLikesAt, List.mem_filter]
    have hsame : (c.declaration uri content).fqn = c.path := rfl
    refine ⟨hall.subset List.mem_cons_self, ?_⟩
    rw [Bool.and_eq_true, Reference.samePath_iff, hkey, hsame]
    exact ⟨hkind, rfl⟩
  · have hmethods : c.methods uri content <:+: declarationsOf (ix.update file ds).files :=
      (List.suffix_cons _ _).isInfix.trans hall
    rw [hfilled.methodsOf_eq, Reference.methodsOf]
    have hfilter := hmethods.filter fun d =>
      d.kind == .method && d.owner.any fun o => Reference.samePath o ("\\" ++ c.path)
    rwa [List.filter_eq_self.2] at hfilter
    intro d hd
    obtain ⟨hmethod, howner⟩ := ClassLike.of_mem_methods hd
    simp [hmethod, howner, Reference.samePath_iff, hkey]

/-- Where the declared name begins with a backslash, nothing is found behind another one. -/
theorem lost_of_rooted (rest : String) (hpath : c.path = "\\" ++ rest) :
    c.declaration uri content ∉ (ix.update file ds).classLikesAt ("\\" ++ c.path) ∧
      ∀ d ∈ c.methods uri content, d ∉ (ix.update file ds).methodsOf ("\\" ++ c.path) := by
  have hfilled : (ix.update file ds).IsFilled := rfl
  have hkey : pathKey c.path ≠ pathKey ("\\" ++ c.path) := by
    rw [hpath]
    exact pathKey_ne_of_rooted rest
  constructor
  · rw [hfilled.classLikesAt_eq, Reference.classLikesAt, List.mem_filter]
    rintro ⟨-, hmem⟩
    rw [Bool.and_eq_true, Reference.samePath_iff] at hmem
    exact hkey hmem.2
  · intro d hd
    obtain ⟨hmethod, howner⟩ := ClassLike.of_mem_methods hd
    rw [hfilled.methodsOf_eq, Reference.methodsOf, List.mem_filter]
    rintro ⟨-, hmem⟩
    rw [howner, Option.any_some, Bool.and_eq_true, Reference.samePath_iff] at hmem
    exact hkey hmem.2

end Updated

end Index

/-! ### Agreement -/

namespace Analysis

open Php (ClassLike classLikesOf)

/-- The declarations of the file, the analysis of its `program` and the index agree on the name of
the class-like `c` that is visited in the state `st`. -/
structure NamesAgree (uri content : String) (program : List Php.Stmt) (c : ClassLike)
    (st : State) : Prop where
  /-- The class-like is declared, followed by its methods. -/
  declared : c.declarations uri content.toList <:+: declarationsOfText uri content
  /-- The last segment of its name is the short name. -/
  short : shortName c.path = c.name.text
  /-- Its name is the owner of the methods, and stands in front of theirs. -/
  methods : (c.methods uri content.toList).map (fun d => (d.kind, d.owner, d.name, d.fqn))
    = c.methodNames.map fun n => (.method, some c.path, n.text, c.path ++ "::" ++ n.text)
  /-- The analysis visits the class-like, -/
  visited : Reaches (symbolsOfText uri content).imports (.stmts program) {} (.stmt c.stmt) st
  /-- and knows it inside by the declared name behind a backslash. -/
  known : KnownAs (symbolsOfText uri content).imports c st ("\\" ++ c.path)
  /-- The index finds the declarations by this name, whatever else it knows, -/
  found : (∀ ns, c.scope ≠ some ("\\" ++ ns)) → ∀ (ix : Index) (file : String),
    let after := ix.update file (declarationsOfText uri content)
    c.declaration uri content.toList ∈ after.classLikesAt ("\\" ++ c.path) ∧
      c.methods uri content.toList <:+: after.methodsOf ("\\" ++ c.path)
  /-- unless the namespace is written with a leading backslash. -/
  lost : ∀ ns, c.scope = some ("\\" ++ ns) → ∀ (ix : Index) (file : String),
    let after := ix.update file (declarationsOfText uri content)
    c.declaration uri content.toList ∉ after.classLikesAt ("\\" ++ c.path) ∧
      ∀ d ∈ c.methods uri content.toList, d ∉ after.methodsOf ("\\" ++ c.path)

/-- A class, trait or enum whose short name has no backslash, and which the analysis meets, has one
name everywhere. -/
theorem namesAgree_of_mem_declaredAt {uri content : String} {program : List Php.Stmt}
    {c : ClassLike} {st : State}
    (hprogram : declarationsOfText uri content
      = (classLikesOf program).flatMap (ClassLike.declarations · uri content.toList))
    (hmem : (c, st) ∈ declaredAt (symbolsOfText uri content).imports program {})
    (hbare : '\\' ∉ c.name.text.toList)
    (hkind : c.kind = .cls ∨ c.kind = .trait ∨ c.kind = .enum) :
    NamesAgree uri content program c st := by
  obtain ⟨hscope, hreach⟩ := reaches_of_mem_declaredAt program hmem
  have hc : c ∈ classLikesOf program := by
    rw [classLikesOf, ← map_fst_declaredAt program {}]
    exact List.mem_map_of_mem hmem
  have hnamed : c.scope ≠ some "" :=
    Php.scope_ne_empty_of_mem_classLikesWithin program (by simp) hc
  have hdeclared : c.declarations uri content.toList <:+: declarationsOfText uri content := by
    obtain ⟨before, after, hsplit⟩ := List.append_of_mem hc
    rw [hprogram, hsplit, List.flatMap_append, List.flatMap_cons, ← List.append_assoc]
    exact ⟨_, _, rfl⟩
  have hclassLike : c.kind.isClassLike = true ∧ c.kind ≠ .interface := by
    rcases hkind with hkind | hkind | hkind <;> simp [hkind, DeclarationKind.isClassLike]
  constructor
  · exact hdeclared
  · exact ClassLike.shortName_path hbare
  · exact ClassLike.map_methods uri content.toList
  · exact hreach
  · exact knownAs_path hscope hbare hclassLike.2
  · intro hwritten ix file
    have hpath := ClassLike.unrooted_path hbare hnamed hwritten
    exact Index.found_of_unrooted ix file hdeclared hclassLike.1 hpath
  · intro ns hns ix file
    refine Index.lost_of_rooted ix file (ns ++ "\\" ++ c.name.text) ?_
    rw [ClassLike.path, hns, declaredName, String.append_assoc, String.append_assoc,
      String.append_assoc]

/-- Declarations, analysis and index agree on the names of the classes, traits and enums of a
file. -/
structure NamesAgreeIn (uri content : String) (program : List Php.Stmt) : Prop where
  /-- The file declares its class-likes, each with its methods. -/
  declarations : declarationsOfText uri content
    = (classLikesOf program).flatMap (ClassLike.declarations · uri content.toList)
  /-- The analysis of the file walks through the same program, -/
  analysis : (Document.ofText uri content).analysis
    = ofStatements (symbolsOfText uri content).imports program
  /-- and meets the same class-likes in the same namespaces. -/
  met : (declaredAt (symbolsOfText uri content).imports program {}).map Prod.fst
    = classLikesOf program
  /-- Each of them has one name. -/
  agree : ∀ c st, (c, st) ∈ declaredAt (symbolsOfText uri content).imports program {} →
    c.kind = .cls ∨ c.kind = .trait ∨ c.kind = .enum → NamesAgree uri content program c st

/-- **Declarations, analysis and index agree on the names of all class-likes**, but the index does
not find them in a namespace that is written with a leading backslash. -/
theorem names_agree (uri content : String) :
    NamesAgreeIn uri content (Php.parseFile content.toList) := by
  have hdeclarations : declarationsOfText uri content
      = (classLikesOf (Php.parseFile content.toList)).flatMap
          (ClassLike.declarations · uri content.toList) :=
    Symbols.declarations_ofStatements uri content.toList _
  have hmet : (declaredAt (symbolsOfText uri content).imports (Php.parseFile content.toList)
      {}).map Prod.fst = classLikesOf (Php.parseFile content.toList) :=
    map_fst_declaredAt _ _
  refine ⟨hdeclarations, rfl, hmet, ?_⟩
  intro c st hmem hkind
  have hc : c ∈ classLikesOf (Php.parseFile content.toList) := hmet ▸ List.mem_map_of_mem hmem
  have hplaced := Php.isPlacedIn_of_mem_classLikesOf hc c.name List.mem_cons_self
  exact namesAgree_of_mem_declaredAt hdeclarations hmem hplaced.bare.1 hkind

/-- **A class in a namespace that is written with a leading backslash is not found** by the name it
has in the analysis: of its two leading backslashes one is left in the key, which the declared name
lacks. -/
theorem rooted_namespace_not_found :
    let text := "<?php namespace \\A; class X \x7b function m() \x7b $this->n(); \x7d \x7d"
    let declared := declarationsOfText "file:///t.php" text
    let ix := Index.empty.update "file:///t.php" declared
    declared.map Declaration.fqn = ["\\A\\X", "\\A\\X::m"] ∧
      (Document.ofText "file:///t.php" text).analysis.calls.toList.map Call.receiverTypes
        = [["\\\\A\\X"]] ∧
      ix.classLikesAt "\\\\A\\X" = [] ∧ ix.methodsOf "\\\\A\\X" = [] := by
  decide +kernel

end Analysis

end MockLens
