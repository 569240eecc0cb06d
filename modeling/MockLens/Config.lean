/-
**Configuration: what a project may set.**

A configuration file has three tables with one setting each.  A file overrides only the settings it
mentions; files that cannot be read are left out.

Main definitions:

* `Config` — the settings;
* `Config.Layer`, `Config.Layer.ofTable` — what one file sets;
* `Config.Error`, `Config.Error.message` — why a file sets nothing;
* `Config.ofToml`, `Config.load` — the settings of one file, and of several.
-/
import MockLens.Text.Shown
import MockLens.Toml.Parser

set_option autoImplicit false

namespace MockLens

/-- The settings. -/
structure Config where
  /-- The class that the result of a method called on a stub is taken to have. -/
  answerBinder : String := "Phake_Proxies_AnswerBinderProxy"
  /-- The names of directories that a scan leaves out. -/
  exclude : List String := ["node_modules"]
  /-- How much is logged. -/
  level : String := "info"
  deriving DecidableEq, Repr

namespace Config

/-! ### Errors -/

/-- Why a file is no configuration. -/
inductive Error where
  | malformed
  /-- A field where only those in `known` may stand. -/
  | unknownField (name : String) (known : List String)
  /-- A value of another type than the one expected. -/
  | invalidType (found expected : String)
  deriving DecidableEq, Repr

/-- A name between backticks. -/
def ticked (s : String) : String := "\x60" ++ s ++ "\x60"

/-- The text of an error; a malformed file has none of its own. -/
def Error.message : Error → Option String
  | malformed => none
  | unknownField name [known] =>
    some ("unknown field " ++ ticked name ++ ", expected " ++ ticked known)
  | unknownField name known =>
    some ("unknown field " ++ ticked name ++ ", expected one of " ++
      ", ".intercalate (known.map ticked))
  | invalidType found expected => some ("invalid type: " ++ found ++ ", expected " ++ expected)

/-- A value as an error names it; integers beyond 64 bits are shown with the width they take.  A
number without a value has no name. -/
def describe? : Toml → Option String
  | .string s => some ("string " ++ Text.shown s)
  | .integer n =>
    let width :=
      if -(Nat.pow 2 63 : Int) ≤ n && n < Nat.pow 2 64 then ""
      else if n < Nat.pow 2 127 then " as i128"
      else " as u128"
    some ("integer " ++ ticked (toString n) ++ width)
  | .float x => some ("floating point " ++ ticked x.text)
  | .unreadable => none
  | .boolean b => some ("boolean " ++ ticked (if b then "true" else "false"))
  | .array _ => some "sequence"
  | .table _ => some "map"
  | .datetime => some "map"

/-- The error of a value that stands where another type is expected. -/
def mismatch (v : Toml) (expected : String) : Error :=
  match describe? v with
  | some found => .invalidType found expected
  | none => .malformed

/-! ### Layers -/

/-- What one file sets. -/
structure Layer where
  answerBinder : Option String := none
  exclude : Option (List String) := none
  level : Option String := none
  deriving DecidableEq, Repr

/-- The text a value must be. -/
def expectString : Toml → Except Error String
  | .string s => .ok s
  | v => .error (mismatch v "a string")

/-- The list of texts a value must be. -/
def expectStrings : Toml → Except Error (List String)
  | .array items => items.mapM expectString
  | v => .error (mismatch v "a sequence")

/-- The name of the only field of a date or time that stands where a table is expected. -/
def datetimeField : String := "$__toml_private_datetime"

/-- Reads the setting of a table that may have only this one.  An array in the place of the table
holds the setting in its first item. -/
def readSection {α : Type} (title name : String) (read : Toml → Except Error α) :
    Toml → Except Error (Option α)
  | .table entries =>
    (entries.mergeSort fun a b => !(b.1 < a.1)).foldlM
      (fun _ entry =>
        if entry.1 == name then (read entry.2).map some
        else .error (.unknownField entry.1 [name]))
      none
  | .array (first :: _) => (read first).map some
  | .array [] => .error .malformed
  | .datetime => .error (.unknownField datetimeField [name])
  | v => .error (mismatch v ("struct " ++ title))

/-- Reads a table of the file. -/
def readEntry (layer : Layer) (entry : String × Toml) : Except Error Layer :=
  match entry.1 with
  | "phake" =>
    (readSection "PhakeSection" "answer_binder" expectString entry.2).map fun v =>
      { layer with answerBinder := v }
  | "index" =>
    (readSection "IndexSection" "exclude" expectStrings entry.2).map fun v =>
      { layer with exclude := v }
  | "log" =>
    (readSection "LogSection" "level" expectString entry.2).map fun v => { layer with level := v }
  | name => .error (.unknownField name ["phake", "index", "log"])

/-- What a file sets; its entries are read in alphabetical order, and the first error counts. -/
def Layer.ofTable (table : Toml.Table) : Except Error Layer :=
  (table.mergeSort fun a b => !(b.1 < a.1)).foldlM readEntry {}

/-- What the text of a file sets. -/
def Layer.ofText (text : String) : Except Error Layer :=
  match Toml.parse? text with
  | some table => Layer.ofTable table
  | none => .error .malformed

/-! ### Loading -/

/-- Overrides the settings a layer mentions. -/
def apply (config : Config) (layer : Layer) : Config :=
  { answerBinder := layer.answerBinder.getD config.answerBinder
    exclude := layer.exclude.getD config.exclude
    level := layer.level.getD config.level }

/-- The settings of the text of a file. -/
def ofToml (text : String) : Except Error Config :=
  (Layer.ofText text).map fun layer => apply {} layer

/-- The settings of the texts of several files, of which later ones override earlier ones; a file
that sets nothing because of an error is left out. -/
def load (texts : List String) : Config :=
  texts.foldl
    (fun config text =>
      match Layer.ofText text with
      | .ok layer => config.apply layer
      | .error _ => config)
    {}

end Config

end MockLens
