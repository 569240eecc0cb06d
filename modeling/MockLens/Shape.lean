/-
**Shapes: what the parameters of a message may look like.**

The protocol gives every message parameters of a fixed shape.  A value is read by its shape into a
normal form, in which objects stand for records, or into the first mismatch.  Records may also be
given as arrays of their fields in order; records that are merged from parts may not.

Main definitions:

* `Shape`, `Shape.Field` — the shapes, and the fields of records;
* `Mismatch`, `Mismatch.message` — why a value does not have a shape;
* `Shape.read` — the normal form of a value of a shape.
-/
import MockLens.Json.Printer
import MockLens.Text.Shown
import MockLens.Uri

set_option autoImplicit false

namespace MockLens

/-! ### Shapes -/

/-- Whether a field of a record must be there. -/
inductive Presence where
  | required
  /-- The field may be missing from an object, but not from an array. -/
  | optional
  /-- The field may be missing. -/
  | free
  deriving DecidableEq, Repr

/-- The shape of a value. -/
inductive Shape where
  | any
  | bool
  | text
  /-- A number. -/
  | real
  /-- An integer between two bounds, which go by a name. -/
  | integer (title : String) (least most : Int)
  | uri
  /-- A value or null. -/
  | option (shape : Shape)
  | list (shape : Shape)
  /-- An object with any names. -/
  | dictionary (title : String) (shape : Shape)
  /-- One of several words. -/
  | word (known : List String)
  /-- Any of several shapes. -/
  | either (title : String) (shapes : List Shape)
  /-- A value, or only whether there is one. -/
  | flagged (shape : Shape)
  | record (title : String) (fields : List (String × Presence × Shape))
  /-- An object with fields of its own and those of several other shapes. -/
  | merged (title : String) (fields : List (String × Presence × Shape)) (parts : List Shape)
  deriving Repr

/-- A field of a record: its name, whether it must be there, and its shape. -/
abbrev Shape.Field := String × Presence × Shape

/-! ### Mismatches -/

/-- Why a value does not have a shape. -/
inductive Mismatch where
  | wrongType (found expected : String)
  | wrongValue (found expected : String)
  | missing (name : String)
  /-- An array of a length other than that of a record. -/
  | wrongLength (found : Nat) (expected : String)
  | unknownWord (word : String) (known : List String)
  /-- None of several shapes fits. -/
  | noneOf (title : String)
  | noUri (cause : Uri.Error) (text : String)
  deriving DecidableEq, Repr

namespace Mismatch

/-- A text between backticks. -/
def ticked (s : String) : String := "\x60" ++ s ++ "\x60"

/-- The text of a mismatch. -/
def message : Mismatch → String
  | wrongType found expected => "invalid type: " ++ found ++ ", expected " ++ expected
  | wrongValue found expected => "invalid value: " ++ found ++ ", expected " ++ expected
  | missing name => "missing field " ++ ticked name
  | wrongLength found expected => "invalid length " ++ toString found ++ ", expected " ++ expected
  | unknownWord word known =>
    let expected :=
      match known with
      | [a] => ticked a
      | [a, b] => ticked a ++ " or " ++ ticked b
      | known => "one of " ++ ", ".intercalate (known.map ticked)
    "unknown variant " ++ ticked word ++ ", expected " ++ expected
  | noneOf title => "data did not match any variant of untagged enum " ++ title
  | noUri cause text => cause.message ++ ": " ++ Text.shown text

end Mismatch

/-- A value as a mismatch names it. -/
def Json.described : Json → String
  | .null => "null"
  | .bool b => "boolean " ++ Mismatch.ticked (if b then "true" else "false")
  | .integer n => "integer " ++ Mismatch.ticked (toString n)
  | .float negative value => "floating point " ++ Mismatch.ticked (floatText negative value)
  | .string s => "string " ++ Text.shown s
  | .array _ => "sequence"
  | .object _ => "map"

namespace Shape

/-! ### Records -/

/-- A field as it was found in a value: its reading, or nothing if it is not there. -/
structure Found where
  name : String
  presence : Presence
  reading : Option (Except Mismatch Json)

/-- The mismatch of the field whose name comes first. -/
def firstMismatch (found : List Found) : Option Mismatch :=
  let failed := found.filterMap fun f =>
    match f.reading with
    | some (.error e) => some (f.name, e)
    | _ => none
  ((failed.mergeSort fun a b => !(b.1 < a.1)).head?).map Prod.snd

/-- The object of the fields found: their mismatches come before fields that are missing. -/
def settle (found : List Found) : Except Mismatch Json :=
  match firstMismatch found with
  | some e => .error e
  | none =>
    match found.find? fun f => f.presence == .required && f.reading.isNone with
    | some f => .error (.missing f.name)
    | none =>
      .ok (.object (found.filterMap fun f =>
        match f.reading with
        | some (.ok v) => some (f.name, v)
        | _ => none))

/-- A count of elements. -/
def elements (n : Nat) : String := toString n ++ if n == 1 then " element" else " elements"

/-- The object of the fields found in an array of a given length, which must not be longer than the
record; `nested` tells that the record is part of a merged one. -/
def settleInOrder (nested : Bool) (title : String) (length : Nat) (found : List Found) :
    Except Mismatch Json :=
  match found.findIdx? fun f => f.presence != .free && f.reading.isNone with
  | some place =>
    .error (.wrongLength place ("struct " ++ title ++ " with " ++ elements found.length))
  | none =>
    if length ≤ found.length then settle found
    else
      .error (.wrongLength length
        (if nested then elements found.length ++ " in sequence" else "fewer elements in array"))

/-- The fields of several objects. -/
def joined (objects : List Json) : Json :=
  .object (objects.flatMap fun v =>
    match v with
    | .object fields => fields
    | _ => [])

/-- The fields of an object whose names are not among those given. -/
def without (names : List String) (fields : List (String × Json)) : Json :=
  .object (fields.filter fun f => !names.contains f.1)

/-! ### Reading -/

/-- A word, or an object with the word as its only name and nothing in it. -/
def readWord (known : List String) (v : Json) : Except Mismatch Json :=
  let check (name : String) (v : Json) : Except Mismatch Json :=
    if known.contains name then
      match v with
      | .null => .ok (.string name)
      | v => .error (.wrongType v.described "unit")
    else .error (.unknownWord name known)
  match v with
  | .string name => check name .null
  | .object fields =>
    match Json.lastFields fields with
    | [(name, v)] => check name v
    | _ => .error (.wrongValue "map" "map with a single key")
  | v => .error (.wrongType v.described "string or map")

/-- An integer between two bounds. -/
def readInteger (title : String) (least most : Int) (v : Json) : Except Mismatch Json :=
  match v with
  | .integer n =>
    if least ≤ n && n ≤ most then .ok v else .error (.wrongValue v.described title)
  | v => .error (.wrongType v.described title)

/-- The normal form of a URI. -/
def readUri (v : Json) : Except Mismatch Json :=
  match v with
  | .string s =>
    match Uri.parse s with
    | .ok u => .ok (.string u.text)
    | .error cause => .error (.noUri cause s)
  | v => .error (.wrongType v.described "a string representing an URL")

mutual

/-- The normal form of a value of a shape; `nested` tells that the value is part of a merged
record. -/
def read (nested : Bool) : Shape → Json → Except Mismatch Json
  | any, v => .ok v
  | bool, v =>
    match v with
    | .bool _ => .ok v
    | v => .error (.wrongType v.described "a boolean")
  | text, v =>
    match v with
    | .string _ => .ok v
    | v => .error (.wrongType v.described "a string")
  | real, v =>
    match v with
    | .integer _ => .ok v
    | .float _ _ => .ok v
    | v => .error (.wrongType v.described "f32")
  | integer title least most, v => readInteger title least most v
  | uri, v => readUri v
  | option shape, v =>
    match v with
    | .null => .ok .null
    | v => read nested shape v
  | list shape, v =>
    match v with
    | .array items => (items.mapM (read nested shape)).map .array
    | v => .error (.wrongType v.described "a sequence")
  | dictionary title shape, v =>
    match v with
    | .object fields =>
      ((Json.lastFields fields).mapM fun f => (read nested shape f.2).map fun v => (f.1, v)).map
        .object
    | v => .error (.wrongType v.described title)
  | word known, v => readWord known v
  | either title shapes, v =>
    match readAny shapes v with
    | some v => .ok v
    | none => .error (.noneOf title)
  | flagged shape, v =>
    match v with
    | .bool _ => .ok .null
    | v => read nested shape v
  | record title fields, v =>
    match v with
    | .object _ => settle (readFields nested fields v)
    | .array items =>
      match readInOrder nested fields items with
      | .error e => .error e
      | .ok found => settleInOrder nested title items.length found
    | v => .error (.wrongType v.described ("struct " ++ title))
  | merged title fields parts, v =>
    match v with
    | .object entries =>
      match settle (readFields nested fields v) with
      | .error e => .error e
      | .ok own => (readParts parts (without (fields.map Prod.fst) entries)).map fun others =>
          joined (own :: others)
    | v => .error (.wrongType v.described ("struct " ++ title))

/-- The fields of a record in an object. -/
def readFields (nested : Bool) : List (String × Presence × Shape) → Json → List Found
  | [], _ => []
  | (name, presence, shape) :: fields, v =>
    ⟨name, presence, (v.field? name).map (read nested shape)⟩ :: readFields nested fields v

/-- The fields of a record in an array; the mismatch of the first item that has one counts. -/
def readInOrder (nested : Bool) :
    List (String × Presence × Shape) → List Json → Except Mismatch (List Found)
  | [], _ => .ok []
  | (name, presence, _) :: fields, [] =>
    (readInOrder nested fields []).map (⟨name, presence, none⟩ :: ·)
  | (name, presence, shape) :: fields, v :: vs =>
    match read nested shape v with
    | .error e => .error e
    | .ok v => (readInOrder nested fields vs).map (⟨name, presence, some (.ok v)⟩ :: ·)

/-- The parts of a merged record. -/
def readParts : List Shape → Json → Except Mismatch (List Json)
  | [], _ => .ok []
  | part :: parts, v =>
    match read true part v with
    | .error e => .error e
    | .ok fields => (readParts parts v).map (fields :: ·)

/-- The normal form for the first of several shapes that fits. -/
def readAny : List Shape → Json → Option Json
  | [], _ => none
  | shape :: shapes, v =>
    match read true shape v with
    | .ok v => some v
    | .error _ => readAny shapes v

end

end Shape

end MockLens
