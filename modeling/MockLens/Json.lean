/-
**JSON values.**

Main definitions:

* `Json` — a value;
* `Json.field?`, `Json.string?` — what is in a value;
* `Json.sorted` — a value with the fields of its objects in order.
-/
import MockLens.Decimal

set_option autoImplicit false

namespace MockLens

/-- A JSON value; the fields of an object stand in the order in which they are written. -/
inductive Json where
  | null
  | bool (value : Bool)
  | integer (value : Int)
  /-- A number that is written with a fraction or an exponent, or that does not fit in 64 bits. -/
  | float (negative : Bool) (value : Binary)
  | string (value : String)
  | array (items : List Json)
  | object (fields : List (String × Json))
  deriving Repr

namespace Json

/-- A natural number as a value. -/
def ofNat (n : Nat) : Json := integer n

/-- A list of texts as a value. -/
def ofStrings (xs : List String) : Json := array (xs.map string)

/-- The last field of an object with a given name. -/
def field? (value : Json) (name : String) : Option Json :=
  match value with
  | object fields => fields.reverse.lookup name
  | _ => none

/-- The text a value is. -/
def string? : Json → Option String
  | string s => some s
  | _ => none

/-- Fields with the last one of each name only, in the order of their names. -/
def lastFields (fields : List (String × Json)) : List (String × Json) :=
  (fields.reverse.eraseDupsBy fun a b => a.1 == b.1).mergeSort fun a b => !(b.1 < a.1)

mutual

/-- A value in which each object has the last field of each name only, in the order of names. -/
def sorted : Json → Json
  | array items => array (sortedItems items)
  | object fields => object (lastFields (sortedFields fields))
  | v => v

/-- The items of an array, each sorted. -/
def sortedItems : List Json → List Json
  | [] => []
  | v :: vs => v.sorted :: sortedItems vs

/-- The fields of an object, the value of each sorted. -/
def sortedFields : List (String × Json) → List (String × Json)
  | [] => []
  | (name, v) :: fields => (name, v.sorted) :: sortedFields fields

end

end Json

end MockLens
