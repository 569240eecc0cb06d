/-
**TOML values.**

Main definitions:

* `Toml.Number` — a floating-point number;
* `Toml` — a value;
* `Toml.Table` — the entries of a table.
-/
import MockLens.Decimal

set_option autoImplicit false

namespace MockLens

/-- A floating-point number. -/
inductive Toml.Number where
  | finite (negative : Bool) (value : Binary)
  | infinite (negative : Bool)
  | undefined
  deriving DecidableEq, Repr

/-- The shortest text of a floating-point number. -/
def Toml.Number.text : Toml.Number → String
  | finite negative value => (if negative then "-" else "") ++ value.shortest.text
  | infinite negative => if negative then "-inf" else "inf"
  | undefined => "NaN"

/-- A TOML value.  Of a date or time nothing is kept, nor of a number that has no value: one that is
too large, say, or an integer without digits. -/
inductive Toml where
  | string (value : String)
  | integer (value : Int)
  | float (value : Toml.Number)
  | unreadable
  | boolean (value : Bool)
  | datetime
  | array (items : List Toml)
  | table (entries : List (String × Toml))
  deriving Repr

namespace Toml

/-- The entries of a table. -/
abbrev Table := List (String × Toml)

end Toml

end MockLens
