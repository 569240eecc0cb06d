/-
**Reading TOML.**

Main definitions:

* `Toml.key?`, `Toml.value?` — a key with its parts, and a value;
* `Toml.line?` — a line of a document;
* `Toml.parse?` — the table a document describes.
-/
import MockLens.Toml.Lexical
import MockLens.Toml.Outline

set_option autoImplicit false

namespace MockLens.Toml

/-! ### Blanks and comments -/

/-- The characters behind spaces and tabs. -/
def dropSpaces (cs : List Char) : List Char := cs.dropWhile isSpace

/-- The characters behind a comment, if one stands here; its line end stays. -/
def dropComment? (cs : List Char) : Option (List Char) :=
  match cs with
  | '#' :: rest =>
    match rest.dropWhile isPlain with
    | [] => some []
    | after => if (newline? after).isSome then some after else none
  | cs => some cs

/-- The characters behind blanks, line ends and comments; every round of `fuel` drops a line. -/
def dropLines? : Nat → List Char → Option (List Char)
  | 0, cs => some cs
  | fuel + 1, cs =>
    match dropComment? (dropSpaces cs) with
    | some rest =>
      match newline? rest with
      | some rest => dropLines? fuel rest
      | none => some rest
    | none => none

/-- The characters behind everything that means nothing between the items of an array. -/
def dropBlank? (cs : List Char) : Option (List Char) := dropLines? cs.length cs

/-- The characters behind the end of a line, before which only a comment may stand. -/
def dropLineEnd? (cs : List Char) : Option (List Char) :=
  match dropComment? (dropSpaces cs) with
  | some [] => some []
  | some rest => newline? rest
  | none => none

/-! ### Keys -/

/-- A character of a key without quotes. -/
def isBare (c : Char) : Bool := c.isAlphanum || c == '_' || c == '-'

/-- One part of a key. -/
def keyPart? (cs : List Char) : Option (String × List Char) :=
  match cs with
  | '"' :: rest => basicLine? [] .inside rest
  | '\'' :: rest => literalLine? [] rest
  | cs =>
    match cs.takeWhile isBare with
    | [] => none
    | name => some (String.ofList name, cs.dropWhile isBare)

/-- A key: the parts before its last dot, the part behind it, and the characters behind the key and
blanks.  Every round of `fuel` reads a part. -/
def keyFrom? : Nat → List String → List Char → Option (List String × String × List Char)
  | 0, _, _ => none
  | fuel + 1, path, cs =>
    match keyPart? (dropSpaces cs) with
    | some (name, rest) =>
      match dropSpaces rest with
      | '.' :: rest => keyFrom? fuel (path ++ [name]) rest
      | rest => some (path, name, rest)
    | none => none

/-- A key with its parts. -/
def key? (cs : List Char) : Option (List String × String × List Char) :=
  keyFrom? (cs.length + 1) [] cs

/-! ### Values -/

/-- The number of arrays and tables in braces that may be nested in each other. -/
def nestingLimit : Nat := 80

mutual

/-- A value, in which `room` arrays and tables in braces may still be nested; every value, item and
field takes a round of `fuel`. -/
def valueFrom? : Nat → Nat → List Char → Option (Toml × List Char)
  | 0, _, _ => none
  | fuel + 1, room, cs =>
    match cs, room with
    | '"' :: rest, _ => (string? '"' rest).map fun (s, rest) => (.string s, rest)
    | '\'' :: rest, _ => (string? '\'' rest).map fun (s, rest) => (.string s, rest)
    | '[' :: _, 0 => none
    | '[' :: rest, room + 1 => itemsFrom? fuel room [] rest
    | '\x7b' :: _, 0 => none
    | '\x7b' :: rest, room + 1 => fieldsFrom? fuel room [] rest
    | cs, _ => (scalar? (word? cs).1).map fun v => (v, (word? cs).2)

/-- The items of an array up to its bracket, those read already standing last first. -/
def itemsFrom? : Nat → Nat → List Toml → List Char → Option (Toml × List Char)
  | 0, _, _, _ => none
  | fuel + 1, room, items, cs =>
    match dropBlank? cs with
    | some (']' :: rest) => some (.array items.reverse, rest)
    | some cs =>
      match valueFrom? fuel room cs with
      | some (v, rest) =>
        match dropBlank? rest with
        | some (',' :: rest) => itemsFrom? fuel room (v :: items) rest
        | some (']' :: rest) => some (.array (v :: items).reverse, rest)
        | _ => none
      | none => none
    | none => none

/-- The fields of a table in braces, with those read already. -/
def fieldsFrom? : Nat → Nat → Outlines → List Char → Option (Toml × List Char)
  | 0, _, _, _ => none
  | fuel + 1, room, fields, cs =>
    match dropBlank? cs with
    | some ('\x7d' :: rest) => some (.table (entryValues fields), rest)
    | some cs =>
      match key? cs with
      | some (path, name, '=' :: rest) =>
        match valueFrom? fuel room (dropSpaces rest) with
        | some (v, rest) =>
          match define [] path name v fields, dropBlank? rest with
          | some fields, some (',' :: rest) => fieldsFrom? fuel room fields rest
          | some fields, some ('\x7d' :: rest) => some (.table (entryValues fields), rest)
          | _, _ => none
        | none => none
      | _ => none
    | none => none

end

/-- A value. -/
def value? (cs : List Char) : Option (Toml × List Char) :=
  valueFrom? (2 * cs.length + 2) nestingLimit cs

/-! ### Documents -/

/-- What has been read of a document, and the header whose table the next keys belong to. -/
structure Document where
  outline : Outlines := []
  header : List String := []

/-- Reads a line: a header in brackets, a header in double brackets, or a key and its value. -/
def line? (doc : Document) (cs : List Char) : Option (Document × List Char) :=
  match cs with
  | '[' :: '[' :: rest =>
    match key? rest with
    | some (path, name, ']' :: ']' :: rest) =>
      (openElement path name doc.outline).map fun o => (⟨o, path ++ [name]⟩, rest)
    | _ => none
  | '[' :: rest =>
    match key? rest with
    | some (path, name, ']' :: rest) =>
      (openTable path name doc.outline).map fun o => (⟨o, path ++ [name]⟩, rest)
    | _ => none
  | cs =>
    match key? cs with
    | some (path, name, '=' :: rest) =>
      match value? (dropSpaces rest) with
      | some (v, rest) =>
        (define doc.header path name v doc.outline).map fun o => ({ doc with outline := o }, rest)
      | none => none
    | _ => none

/-- Reads the lines of a document; every round of `fuel` reads one. -/
def linesFrom? : Nat → Document → List Char → Option Document
  | 0, _, _ => none
  | fuel + 1, doc, cs =>
    match dropBlank? cs with
    | some [] => some doc
    | some cs =>
      match line? doc cs with
      | some (doc, rest) => (dropLineEnd? rest).bind fun rest => linesFrom? fuel doc rest
      | none => none
    | none => none

/-- The table a document describes; a mark of the byte order may stand in front of it. -/
def parse? (s : String) : Option Table :=
  let cs :=
    match s.toList with
    | '\ufeff' :: cs => cs
    | cs => cs
  (linesFrom? (cs.length + 1) {} cs).map fun doc => entryValues doc.outline

end MockLens.Toml
