/-
**Documents: a source text with what was found in it.**

Main definitions:

* `Document` — the symbols and the analysis of a text;
* `Document.ofText` — reading a text;
* `declarationsOfText` — its declarations alone.
-/
import MockLens.Analysis.Walk
import MockLens.Php.Parser
import MockLens.Symbols

set_option autoImplicit false

namespace MockLens

/-- The symbols of a text and the analysis of its calls. -/
structure Document where
  symbols : Symbols := {}
  analysis : Analysis := {}
  deriving DecidableEq, Repr

/-- The symbols of the source text of a file. -/
def symbolsOfText (uri content : String) : Symbols :=
  Symbols.ofStatements uri content.toList (Php.parseFile content.toList)

/-- The declarations in the source text of a file. -/
def declarationsOfText (uri content : String) : List Declaration :=
  (symbolsOfText uri content).declarations

/-- Reads the source text of a file. -/
def Document.ofText (uri content : String) : Document :=
  let statements := Php.parseFile content.toList
  let symbols := Symbols.ofStatements uri content.toList statements
  ⟨symbols, Analysis.ofStatements symbols.imports statements⟩

end MockLens
