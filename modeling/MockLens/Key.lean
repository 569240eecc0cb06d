/-
**Keys: textual stand-ins for the types of mocking calls.**

The declared return types of the mocking facade cannot say that a mock of `Foo` is a `Foo`, or that
a method called on a stub answers with an answer binder.  A *virtual type* says it, and its text
form — the *key* — travels through the analysis in the place of a class name.  A key is a tag of
four characters followed by a payload:

    <01>SIGNATURE~NAMES      a mock made by the call SIGNATURE of the classes NAMES
    <02>T1|T2|…              a verification, typed like its argument
    <03>T1|T2|…              a stub configuration, typed like its argument
    <04>                     a method call chained onto a stub

Main definitions:

* `Tag` — the four kinds of key, with text and label;
* `VirtualType` — what a key stands for;
* `VirtualType.toKey`, `VirtualType.parse` — its text form, and the reading of one.
-/
import MockLens.Text

set_option autoImplicit false

namespace MockLens

/-! ### Tags -/

/-- The four kinds of virtual type. -/
inductive Tag where
  | mock
  | verification
  | stub
  | stubbedMethod
  deriving DecidableEq, Repr

namespace Tag

/-- The four characters a key of this kind starts with. -/
def text : Tag → String
  | mock => "<01>"
  | verification => "<02>"
  | stub => "<03>"
  | stubbedMethod => "<04>"

/-- The name shown for this kind in hover texts and reports. -/
def label : Tag → String
  | mock => "mock"
  | verification => "verification"
  | stub => "stub"
  | stubbedMethod => "stubbed method"

/-- The tag a list of characters starts with, and the payload behind it. -/
def cut? : List Char → Option (Tag × List Char)
  | '<' :: '0' :: '1' :: '>' :: payload => some (mock, payload)
  | '<' :: '0' :: '2' :: '>' :: payload => some (verification, payload)
  | '<' :: '0' :: '3' :: '>' :: payload => some (stub, payload)
  | '<' :: '0' :: '4' :: '>' :: payload => some (stubbedMethod, payload)
  | _ => none

/-- The tag of a key; nothing for a text that is no key. -/
def ofKey (key : String) : Option Tag := (cut? key.toList).map Prod.fst

end Tag

/-- A candidate type is a key rather than a class name. -/
def isKey (type : String) : Bool := (Tag.ofKey type).isSome

/-! ### Virtual types -/

/-- What a key stands for. -/
inductive VirtualType where
  /-- A mock built by the call `signature` from the literal `className`. -/
  | mock (signature className : String)
  /-- A verification of a value whose candidate types are the members. -/
  | verification (members : List String)
  /-- A stub configuration of a value whose candidate types are the members. -/
  | stub (members : List String)
  /-- The result of any method called on a stub. -/
  | stubbedMethod
  deriving DecidableEq, Repr

namespace VirtualType

/-- The kind of a virtual type. -/
def tag : VirtualType → Tag
  | mock _ _ => .mock
  | verification _ => .verification
  | stub _ => .stub
  | stubbedMethod => .stubbedMethod

/-- The candidate types a verification or stub passes on; none for the other kinds. -/
def members : VirtualType → List String
  | verification ms => ms
  | stub ms => ms
  | mock _ _ => []
  | stubbedMethod => []

/-- The part of the key behind the tag. -/
def payload : VirtualType → String
  | mock signature className => signature ++ "~" ++ className
  | verification ms => "|".intercalate ms
  | stub ms => "|".intercalate ms
  | stubbedMethod => ""

/-- The text form of a virtual type. -/
def toKey (v : VirtualType) : String := v.tag.text ++ v.payload

/-- Reads a payload: that of a mock is cut at its first `~`, that of a verification or stub at
every `|`, empty members dropped; behind the tag of a stubbed method anything may stand. -/
def ofPayload (tag : Tag) (payload : List Char) : Option VirtualType :=
  let text := String.ofList payload
  match tag with
  | .mock => (Text.cutFirst '~' text).map fun parts => mock parts.1 parts.2
  | .verification => some (verification (Text.splitNonEmpty '|' text))
  | .stub => some (stub (Text.splitNonEmpty '|' text))
  | .stubbedMethod => some stubbedMethod

/-- Reads a key: nothing comes of a text without a tag, and of a mock without a `~`. -/
def parse (key : String) : Option VirtualType :=
  (Tag.cut? key.toList).bind fun cut => ofPayload cut.1 cut.2

end VirtualType

end MockLens
