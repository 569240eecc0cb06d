/-
**The parameters of messages.**

Parameters are read by their shape; what a message says is then found in the normal form.

Main definitions:

* `Params.textAt`, `Params.numberAt` — the parts of a normal form;
* `Params.position`, `Params.opened`, `Params.changed`, `Params.closed`, `Params.attached` — what
  the messages say that the server understands.
-/
import MockLens.Shape.Capabilities
import MockLens.Shape.Messages
import MockLens.Text.Position

set_option autoImplicit false

namespace MockLens.Params

/-! ### Parts -/

/-- The part at the end of a path of names. -/
def part? (v : Json) (path : List String) : Option Json := path.foldlM Json.field? v

/-- The text at the end of a path. -/
def textAt (v : Json) (path : List String) : String := ((part? v path).bind Json.string?).getD ""

/-- The natural number at the end of a path. -/
def numberAt (v : Json) (path : List String) : Nat :=
  match part? v path with
  | some (.integer n) => n.toNat
  | _ => 0

/-- The items at the end of a path. -/
def itemsAt (v : Json) (path : List String) : List Json :=
  match part? v path with
  | some (.array items) => items
  | _ => []

/-! ### Messages -/

/-- The normal form of parameters, or why they have none. -/
def read (shape : Shape) (v : Json) : Except String Json :=
  (shape.read false v).mapError Mismatch.message

/-- The document and the position a question is about. -/
def position (v : Json) : String × Position :=
  (textAt v ["textDocument", "uri"],
    ⟨numberAt v ["position", "line"], numberAt v ["position", "character"]⟩)

/-- The document that is opened, and its text. -/
def opened (v : Json) : String × String :=
  (textAt v ["textDocument", "uri"], textAt v ["textDocument", "text"])

/-- The document that is changed, and the texts sent for it. -/
def changed (v : Json) : String × List String :=
  (textAt v ["textDocument", "uri"],
    (itemsAt v ["contentChanges"]).map fun item => textAt item ["text"])

/-- The document that is closed. -/
def closed (v : Json) : String := textAt v ["textDocument", "uri"]

/-- The URI of the project, if it is given. -/
def attached (v : Json) : Option Uri := ((v.field? "rootUri").bind Json.string?).bind Uri.parse?

end MockLens.Params
