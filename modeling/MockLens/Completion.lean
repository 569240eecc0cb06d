/-
**Completion: what may be typed at a cursor.**

Inside the quotes of a call that constructs a mock, the classes and interfaces of the index are
offered; behind an arrow, the methods of the class-likes the receiver stands for.

Main definitions:

* `CompletionItem` — an offer;
* `Index.classNameItems` — the classes and interfaces for what is typed inside the quotes;
* `Index.memberItems` — the methods for the candidate types of a receiver;
* `Document.receiverTypes` — the candidate types of the receiver before an arrow;
* `Index.completions` — the offers at a position of a document.
-/
import MockLens.Completion.Cursor
import MockLens.Document
import MockLens.Resolution

set_option autoImplicit false

namespace MockLens

/-! ### Offers -/

/-- A replacement of a stretch of text. -/
structure TextEdit where
  range : Range
  newText : String
  deriving DecidableEq, Repr

/-- What an offer names. -/
inductive CompletionItem.Kind where
  | method
  | cls
  | interface
  deriving DecidableEq, Repr

/-- Something that may be typed at a cursor.  It either brings its own edit or is inserted as the
word it is. -/
structure CompletionItem where
  label : String
  kind : CompletionItem.Kind
  detail : String
  /-- The text that what is typed is compared with. -/
  filterText : String
  sortText : Option String := none
  insertText : Option String := none
  textEdit : Option TextEdit := none
  deriving DecidableEq, Repr

/-- The elements whose keys no earlier element has. -/
def distinctBy {α : Type} (key : α → String) (xs : List α) : List α :=
  xs.eraseDupsBy fun a b => key a == key b

namespace Index

/-! ### Class names -/

/-- Whether what is typed asks for a declaration: without a backslash it must occur in the short
name, and with one, leading backslashes aside, in the fully qualified name, up to ASCII case. -/
def asksFor (typed : String) (d : Declaration) : Bool :=
  Text.hasSub (Text.lower (Text.trimStart (· == '\\') typed))
    (Text.lower (if Text.hasChar '\\' typed then d.fqn else d.name))

/-- The offer of a class or interface, written with a leading backslash if one is typed. -/
def classNameItem (typed : String) (range : Range) (d : Declaration) : CompletionItem :=
  let newText := if Text.startsWith "\\" typed then "\\" ++ d.fqn else d.fqn
  let isInterface := d.kind == .interface
  { label := d.name
    kind := if isInterface then .interface else .cls
    detail := d.fqn
    filterText := if Text.hasChar '\\' typed then newText else d.name
    sortText := some ((if isInterface then "1_" else "0_") ++ Text.lower d.name)
    textEdit := some ⟨range, newText⟩ }

/-- The offers for what is typed inside the quotes: classes before interfaces, each name once. -/
def classNameItems (ix : Index) (typed : String) (range : Range) : List CompletionItem :=
  let matching := (ix.catalogue .cls ++ ix.catalogue .interface).filter (asksFor typed)
  (distinctBy Declaration.fqn matching).map (classNameItem typed range)

/-- The class names offered to a literal that is being typed, if its call constructs a mock. -/
def literalItems (ix : Index) (symbols : Symbols) (content before : List Char) :
    Option (List CompletionItem) :=
  match Cursor.openLiteral? before with
  | some literal =>
    let path := symbols.imports.qualify symbols.scope literal.className
    if CallKind.ofSignature (CallSite.staticSignature path literal.method) ==
        some .mockConstruction then
      let range : Range :=
        ⟨Position.ofOffset content literal.start,
          Position.ofOffset content (Text.byteLength before)⟩
      some (ix.classNameItems literal.typed range)
    else none
  | none => none

/-! ### Members -/

/-- The offer of a method of a class-like. -/
def methodItem (owner method : Declaration) : CompletionItem :=
  { label := method.name
    kind := .method
    detail :=
      (if method.isStatic then "static " else "") ++ owner.name ++ "::" ++ method.name ++ "()"
    filterText := method.name
    insertText := some method.name }

/-- The methods of all class-likes the candidate types stand for, each with the class-like it was
found in; of methods with the same name up to ASCII case only the first counts. -/
def memberItems (ix : Index) (binder : String) (types : List String) : List CompletionItem :=
  let owners := (ix.resolveTypes binder types).filter Declaration.isClassLike
  let found :=
    owners.flatMap fun owner => (ix.methodsOf owner.fqn).map fun method => (owner, method)
  (distinctBy (fun pair => Text.lower pair.2.name) found).map fun pair => methodItem pair.1 pair.2

end Index

/-! ### Receivers -/

/-- The source at a span reads `text`. -/
def Span.reads (content : List Char) (text : String) (s : Span) : Bool :=
  s.start + Text.byteLength text.toList == s.stop &&
    (Text.dropPrefixChars? text.toList (Text.fromByte s.start content)).isSome

/-- The candidate types of the receiver that ends where `before` does.  If the analysis has no typed
expression that ends there and the receiver is a variable, those of its latest occurrence count. -/
def Document.receiverTypes (doc : Document) (content before : List Char) : List String :=
  let stop := Text.byteLength before
  match doc.analysis.typedEndingAt stop with
  | some t => t.types
  | none =>
    match Cursor.variableBefore? before with
    | some name =>
      let occurrences :=
        doc.analysis.typed.toList.filter fun t =>
          t.span.stop ≤ stop && t.span.reads content name
      ((Span.latest TypedExpr.span occurrences).map TypedExpr.types).getD []
    | none => []

/-! ### Completion -/

namespace Index

/-- The offers at a position of a text, of which `doc` is the latest reading.  Class names may be
offered as an empty list; without members to offer there is nothing. -/
def completions (ix : Index) (binder : String) (doc : Option Document) (text : String)
    (position : Position) : Option (List CompletionItem) :=
  let content := text.toList
  let before := Text.beforeByte (position.offset content) content
  match ix.literalItems ((doc.map Document.symbols).getD {}) content before with
  | some items => some items
  | none =>
    match Cursor.receiver? before, doc with
    | some receiver, some doc =>
      match ix.memberItems binder (doc.receiverTypes content receiver) with
      | [] => none
      | items => some items
    | _, _ => none

end Index

end MockLens
