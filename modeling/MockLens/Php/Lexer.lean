/-
**The lexer: from source text to tokens.**

Source text is read in one of several modes: outside the code tags, as code, inside a string with
interpolation, and behind the statement that ends the code of a file.  An interpolated expression is
read as code up to a byte offset that is found beforehand by matching brackets; the lexer keeps the
offsets of the interpolations it is in, innermost first.  Blanks and comments yield no token.

The tokens of an interpolation become visible together, at its end.  Text that is no token spoils
them all: they never appear, nor do those of the interpolations behind, and in their place is a gap.

Main definitions:

* `codeLexeme` — the token at the start of a piece of code;
* `Closing`, `Mode`, `Lexer` — what ends a string, the modes, and the state of the lexer;
* `Lexer.read`, `Lexer.step` — reads one token, and makes tokens visible;
* `tokenize` — the tokens of a file.
-/
import MockLens.Php.Token

set_option autoImplicit false

namespace MockLens.Php

/-! ### Runs of characters -/

/-- The characters between tokens: the blanks of ASCII and the vertical tab. -/
def isSpace (c : Char) : Bool := Text.isBlank c || c == '\x0b'

/-- Adds to `n` the number of characters at the start of the list that `p` accepts. -/
def countWhile (p : Char → Bool) : Nat → List Char → Nat
  | n, [] => n
  | n, c :: cs => if p c then countWhile p (n + 1) cs else n

/-- The number of characters before the first place where one of `pats` starts, counted from `n`;
all of them if there is no such place. -/
def countUntil (pats : List (List Char)) : Nat → List Char → Nat
  | n, [] => n
  | n, c :: cs =>
    if pats.any (fun pat => (Text.dropPrefixChars? pat (c :: cs)).isSome) then n
    else countUntil pats (n + 1) cs

/-- The number of characters up to and including the first occurrence of `pat`, counted from `n`. -/
def countThrough? (pat : List Char) : Nat → List Char → Option Nat
  | n, [] => if pat.isEmpty then some n else none
  | n, c :: cs =>
    if (Text.dropPrefixChars? pat (c :: cs)).isSome then some (n + pat.length)
    else countThrough? pat (n + 1) cs

/-- The number of characters up to and including the quote that closes a string; a backslash takes
the character behind it with it. -/
def countQuoted? (quote : Char) : Nat → List Char → Option Nat
  | _, [] => none
  | _, ['\\'] => none
  | n, '\\' :: _ :: cs => countQuoted? quote (n + 2) cs
  | n, c :: cs => if c == quote then some (n + 1) else countQuoted? quote (n + 1) cs

/-- The number of characters in names joined by single backslashes, and whether there is more than
one name. -/
def countNames : Nat → Bool → List Char → Nat × Bool
  | n, joined, [] => (n, joined)
  | n, joined, [c] => (if isNamePart c then n + 1 else n, joined)
  | n, joined, c :: d :: cs =>
    if isNamePart c then countNames (n + 1) joined (d :: cs)
    else if c == '\\' && isNameStart d then countNames (n + 2) true cs
    else (n, joined)

/-! ### Lexemes of code -/

/-- The beginning of a piece of code that belongs together: `size` characters forming a token, or
blanks or a comment when there is no kind. -/
structure Lexeme where
  kind : Option TokenKind
  size : Nat
  deriving DecidableEq, Repr

/-- A comment up to the end of its line or to a closing tag. -/
def lineComment (cs : List Char) : Lexeme :=
  ⟨none, countUntil [['\n'], ['\r'], ['?', '>']] 0 cs⟩

/-- A comment between `/*` and `*/`; without its end it is no token. -/
def blockComment (cs : List Char) : Lexeme :=
  match countThrough? ['*', '/'] 2 (cs.drop 2) with
  | some n => ⟨none, n⟩
  | none => ⟨some .stray, cs.length⟩

/-- A string without interpolation whose opening quote is character `start`. -/
def quotedLexeme (quote : Char) (start : Nat) (cs : List Char) : Lexeme :=
  match countQuoted? quote (start + 1) (cs.drop (start + 1)) with
  | some n => ⟨some .quoted, n⟩
  | none => ⟨some .unterminated, cs.length⟩

/-- An interpolated expression starts here; `starts` tells the characters a name may start with. -/
def startsInterpolation (starts : Char → Bool) : List Char → Bool
  | '$' :: c :: _ => starts c || c == '{'
  | '{' :: '$' :: _ => true
  | _ => false

/-- Behind its opening quote a double-quoted string has no interpolation.  Only a name that starts
in ASCII makes one. -/
def isPlain : List Char → Bool
  | [] => true
  | ['\\'] => true
  | '\\' :: _ :: cs => isPlain cs
  | c :: cs =>
    if c == '"' then true
    else if startsInterpolation isAsciiNameStart (c :: cs) then false
    else isPlain cs

/-- A double-quoted string whose quote is character `start`: one token without interpolation, else
the opening quote alone. -/
def doubleQuotedLexeme (start : Nat) (cs : List Char) : Lexeme :=
  if isPlain (cs.drop (start + 1)) then quotedLexeme '"' start cs
  else ⟨some (.symbol "\""), start + 1⟩

/-- The visibilities for writing. -/
def setters : List String := ["public(set)", "protected(set)", "private(set)"]

/-- A name, a keyword, a visibility for writing or, outside strings, names joined by backslashes. -/
def nameLexeme (inString : Bool) (cs : List Char) : Lexeme :=
  match setters.find? (fun word => Text.lower (String.ofList (cs.take word.length)) == word) with
  | some word => ⟨some (.setter word), word.length⟩
  | none =>
    let (n, joined) :=
      if inString then (countWhile isNamePart 0 cs, false) else countNames 0 false cs
    ⟨some (if joined then .qualifiedName else wordKind (String.ofList (cs.take n))), n⟩

/-- The number of characters, counted from `n`, that are digits of a base; a single underscore may
stand before any of them. -/
def countDigits (base : Nat) : Nat → List Char → Nat
  | n, [] => n
  | n, [c] => if Text.isDigitIn base c then n + 1 else n
  | n, c :: d :: cs =>
    if Text.isDigitIn base c then countDigits base (n + 1) (d :: cs)
    else if c == '_' && Text.isDigitIn base d then countDigits base (n + 2) cs
    else n

/-- The length of an exponent, if one starts here. -/
def exponentSize : List Char → Nat
  | e :: d :: cs =>
    if e == 'e' || e == 'E' then
      if d.isDigit then countDigits 10 2 cs
      else if (d == '+' || d == '-') && (cs.head?.any Char.isDigit) then countDigits 10 2 cs
      else 0
    else 0
  | _ => 0

/-- The length of a fraction with its point, if one starts here.  A point belongs to the number also
with no digit behind it. -/
def fractionSize : List Char → Nat
  | '.' :: cs => countDigits 10 1 cs
  | _ => 0

/-- The length of a decimal number. -/
def decimalSize (cs : List Char) : Nat :=
  let whole := countDigits 10 0 cs
  let point := whole + fractionSize (cs.drop whole)
  point + exponentSize (cs.drop point)

/-- A number that starts with zero and is neither a fraction nor has an exponent is octal: another
digit makes it no token. -/
def zeroLexeme (cs : List Char) : Lexeme :=
  let whole := cs.take (countDigits 10 0 cs)
  let size := decimalSize cs
  ⟨some (if size == whole.length && whole.any (fun c => c == '8' || c == '9') then .stray
    else .number), size⟩

/-- A number in any of its notations. -/
def numberLexeme (cs : List Char) : Lexeme :=
  let based (base : Nat) (rest : List Char) : Lexeme :=
    if rest.head?.any (Text.isDigitIn base) then ⟨some .number, countDigits base 2 rest⟩
    else ⟨some .number, 1⟩
  match cs with
  | '0' :: b :: rest =>
    if b == 'x' || b == 'X' then based 16 rest
    else if b == 'b' || b == 'B' then based 2 rest
    else if b == 'o' || b == 'O' then based 8 rest
    else zeroLexeme cs
  | _ => ⟨some .number, decimalSize cs⟩

/-- The words that make a conversion when they stand in parentheses. -/
def castTypes : List String :=
  ["int", "integer", "bool", "boolean", "float", "double", "real", "string", "array", "object",
   "unset", "binary", "void"]

/-- The number of characters, counted from `n`, that hold a pattern up to ASCII case, with blanks
before any of its characters. -/
def spacedSize? : List Char → Nat → List Char → Option Nat
  | [], n, _ => some n
  | _ :: _, _, [] => none
  | p :: ps, n, c :: cs =>
    if Text.isBlank c then spacedSize? (p :: ps) (n + 1) cs
    else if c.toLower == p then spacedSize? ps (n + 1) cs
    else none

/-- The length of a conversion such as `(int)`, if one starts here. -/
def castSize? (cs : List Char) : Option Nat :=
  if cs.head? == some '(' then
    castTypes.findSome? fun word => spacedSize? ('(' :: word.toList ++ [')']) 0 cs
  else none

/-- Operators and punctuation, longer ones before their beginnings. -/
def symbols : List String :=
  ["<=>", "**=", "...", "<<=", ">>=", "??=", "===", "!==", "?->",
   "==", "!=", "<>", "<=", ">=", "&&", "||", "??", "++", "--", "+=", "-=", "*=", "/=", ".=",
   "%=", "&=", "|=", "^=", "<<", ">>", "**", "->", "=>", "::", "|>", "#[", "$\x7b",
   ";", ",", "\x7b", "\x7d", "(", ")", "[", "]", "<", ">", "=", "+", "-", "*", "/", "%", "&",
   "|", "^", "~", "!", "?", ".", ":", "$", "@", "\\", "\x60"]

/-! ### Document strings -/

/-- What ends a string that is read in pieces. -/
inductive Closing where
  /-- A quote or a backquote. -/
  | quote (c : Char)
  /-- A label at the start of a line; the string has interpolation. -/
  | heredoc (label : List Char)
  /-- A label at the start of a line; the string has none. -/
  | nowdoc (label : List Char)
  deriving DecidableEq, Repr

/-- The length of the line end that stands here. -/
def lineEnd? : List Char → Option Nat
  | '\n' :: _ => some 1
  | '\r' :: '\n' :: _ => some 2
  | _ => none

/-- The opening of a document string, if one starts here: its length and what closes it.  Its label
starts in ASCII, and a line ends right behind it. -/
def bareDocumentStart? (cs : List Char) : Option (Nat × Closing) :=
  match Text.dropPrefixChars? ['<', '<', '<'] cs with
  | none => none
  | some rest =>
    let lead := countWhile Text.isBlank 0 rest
    let quoted := (rest.drop lead).head?.any (fun c => c == '\'' || c == '"')
    let start := if quoted then lead + 1 else lead
    let label := (rest.drop start).takeWhile isNamePart
    let after := rest.drop (start + label.length)
    if !label.head?.any isAsciiNameStart then none
    else if quoted then
      let quote := ((rest.drop lead).head?).getD '"'
      match after with
      | c :: more =>
        if c == quote then
          (lineEnd? more).map fun n =>
            (3 + start + label.length + 1 + n,
              if quote == '\'' then Closing.nowdoc label else Closing.heredoc label)
        else none
      | [] => none
    else
      (lineEnd? after).map fun n => (3 + start + label.length + n, Closing.heredoc label)

/-- The same, with or without the letter `b` in front. -/
def documentStart? (cs : List Char) : Option (Nat × Closing) :=
  match cs with
  | c :: rest =>
    if c == 'b' || c == 'B' then (bareDocumentStart? rest).map fun d => (d.1 + 1, d.2)
    else bareDocumentStart? cs
  | [] => none

/-! ### Code -/

/-- The token, or the blanks or comment, at the start of a piece of code; `inString` tells that the
code is interpolated. -/
def codeLexeme (inString : Bool) (cs : List Char) : Option Lexeme :=
  match cs with
  | [] => none
  | c :: rest =>
    let next := rest.head?
    some <|
      if isSpace c then ⟨none, countWhile isSpace 0 cs⟩
      else if c == '#' && next != some '[' then lineComment cs
      else if c == '/' && next == some '/' then lineComment cs
      else if c == '/' && next == some '*' then blockComment cs
      else if (c == 'b' || c == 'B') && next == some '\'' then quotedLexeme '\'' 1 cs
      else if (c == 'b' || c == 'B') && next == some '"' then doubleQuotedLexeme 1 cs
      else if isNameStart c then
        match documentStart? cs with
        | some opening => ⟨some .documentStart, opening.1⟩
        | none =>
          if (c == 'b' || c == 'B') && (Text.dropPrefixChars? ['<', '<', '<'] rest).isSome then
            ⟨some .stray, 1⟩
          else nameLexeme inString cs
      else if c.isDigit || (c == '.' && next.any Char.isDigit) then numberLexeme cs
      else if c == '\'' then quotedLexeme '\'' 0 cs
      else if c == '"' then doubleQuotedLexeme 0 cs
      else if c == '$' && next.any isNameStart then
        ⟨some .variable, countWhile isNamePart 1 rest⟩
      else if c == '\\' && next.any isNameStart then
        ⟨some .rootedName, (countNames 1 false rest).1⟩
      else if c == '?' && next == some '>' then ⟨some .closeTag, 2⟩
      else
        match castSize? cs with
        | some n => ⟨some .cast, n⟩
        | none =>
          match documentStart? cs with
          | some opening => ⟨some .documentStart, opening.1⟩
          | none =>
            match symbols.find? (fun text => (Text.dropPrefixChars? text.toList cs).isSome) with
            | some text => ⟨some (.symbol text), text.length⟩
            | none => ⟨some .stray, 1⟩

/-! ### Strings with interpolation -/

/-- The length of the literal text at the start of a quoted string with interpolation; `escaped`
says whether a backslash stands before it. -/
def quoteRun (closer : Char) : Nat → Bool → List Char → Nat
  | n, _, [] => n
  | n, escaped, c :: cs =>
    if !escaped && startsInterpolation isNameStart (c :: cs) then n
    else if c == '\\' then quoteRun closer (n + 1) (!escaped) cs
    else if c == closer && !escaped then n
    else quoteRun closer (n + 1) false cs

/-- The end of a piece of a document string. -/
inductive DocumentPiece where
  | text (size : Nat)
  | label (size : Nat)
  deriving DecidableEq, Repr

/-- The piece at the start of a document string: literal text up to a line end or an interpolation,
or the closing label when only blanks stand before it. -/
def documentRun (label : List Char) (interpolated : Bool) :
    Nat → Bool → Bool → List Char → DocumentPiece
  | n, _, _, [] => .text n
  | n, _, _, '\r' :: '\n' :: _ => .text (n + 2)
  | n, blankSoFar, escaped, c :: cs =>
    if c == '\n' || c == '\r' then .text (n + 1)
    else if Text.isBlank c then documentRun label interpolated (n + 1) blankSoFar escaped cs
    else if interpolated && !escaped && startsInterpolation isNameStart (c :: cs) then .text n
    else if interpolated && c == '\\' then
      documentRun label interpolated (n + 1) false (!escaped) cs
    else
      match Text.dropPrefixChars? label (c :: cs) with
      | some after =>
        if blankSoFar && !after.head?.any Char.isAlphanum then .label (n + label.length)
        else documentRun label interpolated (n + 1) false false cs
      | none => documentRun label interpolated (n + 1) false false cs

/-- The length of a subscript behind its bracket, which ends at the matching bracket or at a
blank. -/
def subscriptEnd : Nat → Nat → List Char → Nat
  | n, _, [] => n
  | n, depth, c :: cs =>
    if c == ']' then if depth = 0 then n + 1 else subscriptEnd (n + 1) (depth - 1) cs
    else if c == '[' then subscriptEnd (n + 1) (depth + 1) cs
    else if Text.isBlank c then n
    else subscriptEnd (n + 1) depth cs

/-- The length of a variable in a string, with one subscript or one property behind it. -/
def variableEnd (cs : List Char) : Nat :=
  let n := countWhile isNamePart 2 (cs.drop 2)
  match cs.drop n with
  | '[' :: rest => subscriptEnd (n + 1) 0 rest
  | '-' :: '>' :: c :: rest =>
    if isAsciiNameStart c then countWhile isNamePart (n + 3) rest else n
  | '?' :: '-' :: '>' :: c :: rest =>
    if isAsciiNameStart c then countWhile isNamePart (n + 4) rest else n
  | _ => n

/-- The length of an expression in braces, up to the matching brace. -/
def braceEnd : Nat → Nat → List Char → Nat
  | n, _, [] => n
  | n, depth, c :: cs =>
    if c == '\x7d' then if depth = 0 then n + 1 else braceEnd (n + 1) (depth - 1) cs
    else if c == '\x7b' then braceEnd (n + 1) (depth + 1) cs
    else braceEnd (n + 1) depth cs

/-- The number of bytes of the interpolation at the start of the list. -/
def interpolationBytes (cs : List Char) : Nat :=
  let n :=
    match cs with
    | '$' :: c :: _ => if isNameStart c then variableEnd cs else braceEnd 2 0 (cs.drop 2)
    | _ => braceEnd 2 0 (cs.drop 2)
  Text.byteLength (cs.take n)

/-! ### The lexer -/

/-- How the text ahead is read. -/
inductive Mode where
  /-- As text outside the code tags. -/
  | html
  | code
  /-- As a string that the given closing ends. -/
  | string (closing : Closing)
  /-- As the rest of the statement that ends the code, of which the given symbols are missing. -/
  | halting (missing : List String)
  /-- As data behind that statement. -/
  | halted
  deriving DecidableEq, Repr

/-- The state of the lexer: how it reads, the interpolations it is in with their ends and the
strings they belong to, the tokens read in them, latest first, whether an interpolation was spoilt,
and the text ahead with its byte offset. -/
structure Lexer where
  mode : Mode := .html
  pending : List (Nat × Closing) := []
  held : List Token := []
  spoilt : Bool := false
  offset : Nat := 0
  rest : List Char
  deriving DecidableEq, Repr

namespace Lexer

/-- The token of the next `size` characters. -/
def token (lx : Lexer) (kind : TokenKind) (size : Nat) : Token :=
  let text := lx.rest.take size
  ⟨kind, String.ofList text, ⟨lx.offset, lx.offset + Text.byteLength text⟩⟩

/-- The lexer behind the next `size` characters. -/
def advance (lx : Lexer) (size : Nat) : Lexer :=
  { lx with
    offset := lx.offset + Text.byteLength (lx.rest.take size)
    rest := lx.rest.drop size }

/-- Text outside the code tags, or the tag that ends it.  A first line that names an interpreter
has no tags. -/
def stepHtml (lx : Lexer) : Option (List Token × Lexer) :=
  match lx.rest with
  | [] => none
  | '<' :: '?' :: rest =>
    let (kind, size) :=
      if Text.lower (String.ofList (rest.take 3)) == "php" then (TokenKind.openTag, 5)
      else if rest.head? == some '=' then (TokenKind.echoTag, 3)
      else (TokenKind.openTag, 2)
    some ([lx.token kind size], { lx.advance size with mode := .code })
  | cs =>
    let size :=
      if lx.offset == 0 && (Text.dropPrefixChars? ['#', '!'] cs).isSome then
        (countThrough? ['\n'] 0 cs).getD cs.length
      else countUntil [['<', '?']] 0 cs
    some ([lx.token .html size], lx.advance size)

/-- The mode behind a token of code. -/
def modeAfter (kind : TokenKind) (cs : List Char) : Mode :=
  match kind with
  | .closeTag => .html
  | .symbol "\"" => .string (.quote '"')
  | .symbol "\x60" => .string (.quote '\x60')
  | .documentStart =>
    match documentStart? cs with
    | some (_, closing) => .string closing
    | none => .code
  | .keyword "__halt_compiler" => .halting ["(", ")", ";"]
  | _ => .code

/-- One token of code, or the blanks or comment before one. -/
def stepCode (lx : Lexer) : Option (List Token × Lexer) :=
  match codeLexeme (!lx.pending.isEmpty || lx.spoilt) lx.rest with
  | none => none
  | some ⟨none, size⟩ => some ([], lx.advance size)
  | some ⟨some kind, size⟩ =>
    some ([lx.token kind size], { lx.advance size with mode := modeAfter kind lx.rest })

/-- Enters the interpolation ahead. -/
def interpolate (lx : Lexer) (closing : Closing) : Lexer :=
  { lx with
    mode := .code
    pending := (lx.offset + interpolationBytes lx.rest, closing) :: lx.pending }

/-- A piece of a string: literal text, the end of the string, or the step into an
interpolation. -/
def stepString (lx : Lexer) (closing : Closing) : Option (List Token × Lexer) :=
  match lx.rest with
  | [] => none
  | _ :: _ =>
    match closing with
    | .quote c =>
      match quoteRun c 0 false lx.rest with
      | 0 =>
        if lx.rest.head? == some c then
          let quote := lx.token (.symbol (String.singleton c)) 1
          some ([quote], { lx.advance 1 with mode := .code })
        else some ([], lx.interpolate closing)
      | n => some ([lx.token .textPart n], lx.advance n)
    | .heredoc label => piece (documentRun label true 0 true false lx.rest)
    | .nowdoc label => piece (documentRun label false 0 true false lx.rest)
where
  piece : DocumentPiece → Option (List Token × Lexer)
    | .label n => some ([lx.token .documentEnd n], { lx.advance n with mode := .code })
    | .text 0 => some ([], lx.interpolate closing)
    | .text n => some ([lx.token .textPart n], lx.advance n)

/-- One token of the statement that ends the code.  There are no comments in it, and every byte
that does not belong there is stray by itself. -/
def stepHalting (lx : Lexer) : List String → Option (List Token × Lexer)
  | [] => none
  | want :: missing =>
    match lx.rest with
    | [] => none
    | c :: _ =>
      let wanted (kind : TokenKind) (size : Nat) : Option (List Token × Lexer) :=
        some ([lx.token kind size],
          { lx.advance size with mode := if missing.isEmpty then .halted else .halting missing })
      if isSpace c then some ([], lx.advance (countWhile isSpace 0 lx.rest))
      else if want == String.singleton c then wanted (.symbol want) 1
      else if want == ";" && (Text.dropPrefixChars? ['?', '>'] lx.rest).isSome then
        wanted .closeTag 2
      else some (List.replicate c.utf8Size (lx.token .stray 1), lx.advance 1)

/-- Reads one token, or something that yields none; nothing at the end of the text. -/
def read (lx : Lexer) : Option (List Token × Lexer) :=
  match lx.mode with
  | .html => lx.stepHtml
  | .code => lx.stepCode
  | .string closing => lx.stepString closing
  | .halting missing => lx.stepHalting missing
  | .halted =>
    if lx.rest.isEmpty then none
    else some ([lx.token .html lx.rest.length], lx.advance lx.rest.length)

/-- Leaves the innermost interpolation once its end is reached by what stands between two
offsets. -/
def settle (start stop : Nat) (lx : Lexer) : Lexer :=
  match lx.pending with
  | (until_, closing) :: more =>
    if start ≤ until_ ∧ until_ ≤ stop then { lx with mode := .string closing, pending := more }
    else lx
  | [] => lx

/-- Reads one token; the tokens that become visible by it are those of an interpolation at its
end. -/
def step (lx : Lexer) : Option (List Token × Lexer) :=
  match lx.read with
  | none => none
  | some (found, next) =>
    let next :=
      if next.pending.length == lx.pending.length then next.settle lx.offset next.offset else next
    if lx.pending.isEmpty && next.pending.isEmpty then some (found, next)
    else if found.any (fun t => t.kind == .stray) then
      some ([lx.token .gap 0],
        { next with mode := .code, pending := [], held := [], spoilt := true })
    else
      let held := found.reverse ++ next.held
      if next.pending.isEmpty then
        some (if next.spoilt then [] else held.reverse, { next with held := [] })
      else some ([], { next with held := held })

/-- The tokens ahead behind those already read, latest first. -/
def run : Nat → List Token → Lexer → List Token
  | 0, tokens, _ => tokens.reverse
  | fuel + 1, tokens, lx =>
    match lx.step with
    | none => tokens.reverse
    | some (found, next) => run fuel (found.reverse ++ tokens) next

end Lexer

/-- The tokens of a file.  Every step reads a character or enters an interpolation that is followed
by one, so twice the number of characters bounds the number of steps. -/
def tokenize (content : List Char) : List Token :=
  Lexer.run (2 * content.length + 2) [] { rest := content }

end MockLens.Php
