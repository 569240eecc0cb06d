/-
**URIs: how editors name documents.**

An editor names a document by a URI; the scan of a workspace names a file by its path.  This module
reads a URI into its parts in the way browsers do, prints it in its normal form, and converts
between URIs of the `file` scheme and paths.

The normal form is a text in which the scheme and the host are in lower case, steps to the parent
directory are taken back, and the characters that may not stand in a URI are percent-encoded.
Percent-encoded sequences that are there already are kept.

Main definitions:

* `Uri`, `Uri.text` — the parts of a URI, and its normal form;
* `Uri.parse`, `Uri.parse?` — reading a URI, or saying why a text is none;
* `Uri.normalize?` — its normal form;
* `Uri.filePath?` — the path a URI names;
* `Uri.ofPath` — the text of the URI of a path.
-/
import MockLens.Path
import MockLens.Uri.Host

set_option autoImplicit false

namespace MockLens

/-! ### The parts of a URI -/

/-- What stands behind the scheme and the host. -/
inductive Uri.Location where
  /-- Names divided by slashes, the first of which stands behind a slash too. -/
  | names (names : List String)
  /-- Text that is not divided. -/
  | plain (text : String)
  deriving DecidableEq, Repr

/-- A URI in its normal form. -/
structure Uri where
  scheme : String
  /-- User, password and an at sign, if there are any. -/
  user : String := ""
  /-- The host; a URI without one has no two slashes behind its scheme. -/
  host : Option String := none
  /-- A colon and the number behind it, if the host has one. -/
  portText : String := ""
  location : Uri.Location
  query : Option String := none
  fragment : Option String := none
  deriving DecidableEq, Repr

namespace Uri

/-- The text of a location. -/
def Location.text : Location → String
  | names ns => String.join (ns.map fun n => "/" ++ n)
  | plain s => s

/-- The text of a URI. -/
def text (u : Uri) : String :=
  let start := u.scheme ++ ":"
  let host :=
    match u.host with
    | some host => "//" ++ u.user ++ host ++ u.portText
    | none =>
      match u.location with
      | .names ("" :: _ :: _) => "/."
      | _ => ""
  let query := match u.query with | some q => "?" ++ q | none => ""
  let fragment := match u.fragment with | some f => "#" ++ f | none => ""
  start ++ host ++ u.location.text ++ query ++ fragment

/-! ### Reading -/

/-- The schemes whose URIs have a host, with the numbers that need not be written. -/
def hostSchemes : List (String × String) :=
  [("http", ":80"), ("https", ":443"), ("ws", ":80"), ("wss", ":443"), ("ftp", ":21")]

/-- A tab or a line end, which do not count in a URI. -/
def isBreak (c : Char) : Bool := c == '\t' || c == '\n' || c == '\r'

/-- A text without tabs and line ends. -/
def withoutBreaks (cs : List Char) : List Char := cs.filter fun c => !isBreak c

/-- The scheme a text starts with, in lower case, and the text behind its colon. -/
def cutScheme? (cs : List Char) : Option (String × List Char) :=
  match Text.cutFirstChars ':' cs with
  | some (before, rest) =>
    let scheme := withoutBreaks before
    if scheme.head?.any Char.isAlpha &&
        scheme.all (fun c => c.isAlphanum || c == '+' || c == '-' || c == '.') then
      some (Text.lower (String.ofList scheme), rest)
    else none
  | none => none

/-- A name that stands for the directory itself. -/
def isHere (name : String) : Bool := name == "." || Text.lower name == "%2e"

/-- A name that stands for the parent directory. -/
def isParent (name : String) : Bool :=
  ["..", ".%2e", "%2e.", "%2e%2e"].contains (Text.lower name)

/-- A letter and a colon or bar, which name a drive. -/
def isDrive : List Char → Bool
  | [letter, mark] => letter.isAlpha && (mark == ':' || mark == '|')
  | _ => false

/-- A slash, or what counts as one in schemes that have hosts of their own. -/
def isSlash (special : Bool) (c : Char) : Bool := c == '/' || (special && c == '\\')

/-- A name of a location as it is printed. -/
def encodeName (cs : List Char) : String := String.ofList (percentEncode encodedInPath cs)

/-- Goes on to a further name; `names` are those before it, the last one first.  A name for the
parent takes back the name before it, unless that is a drive. -/
def enter (names : List String) (name : String) : List String :=
  if isParent name then
    match names with
    | last :: outer => if isDrive last.toList then names else outer
    | [] => []
  else if isHere name then names
  else name :: names

/-- The names of a location, given with the last one first, in order.  A location that ends in a
step names the directory it leads to: behind this stands an empty name. -/
def closeNames (names : List String) (last : String) : List String :=
  (if isParent last || isHere last then "" :: names else names).reverse

/-- The location behind a host: its names lie between slashes. -/
def readNames (special : Bool) (cs : List Char) : Location :=
  let body :=
    match cs with
    | c :: rest => if isSlash special c then rest else cs
    | [] => []
  let names := (Text.splitCharsBy (isSlash special) body).map encodeName
  .names (closeNames (names.foldl enter []) (names.getLast?.getD ""))

/-! ### Locations of files -/

/-- The text behind a slash, if one stands in front of it. -/
def dropSlash? (cs : List Char) : Option (List Char) :=
  match cs.dropWhile isBreak with
  | c :: rest => if isSlash true c then some rest else none
  | [] => none

/-- A drive in front of a name, and the name behind it: a tab or line end divides them. -/
def cutDrive? (cs : List Char) : Option (List Char × List Char) :=
  match cs.dropWhile isBreak with
  | letter :: rest =>
    match rest.dropWhile isBreak with
    | ':' :: gap :: name =>
      let name := withoutBreaks name
      if letter.isAlpha && isBreak gap && !name.isEmpty then some ([letter, ':'], name) else none
    | _ => none
  | [] => none

/-- The names entered in the location of a file, the last one first, and whether the location starts
with a drive, which has no host. -/
structure FileNames where
  names : List String := []
  onDrive : Bool := false
  deriving DecidableEq, Repr

/-- Goes on to a further name.  A drive at the front is written with a colon. -/
def FileNames.enter (l : FileNames) (cs : List Char) : FileNames :=
  let name := withoutBreaks cs
  if l.names.isEmpty then
    match cutDrive? cs, name with
    | some (drive, name), _ => { l with names := [encodeName name, encodeName drive] }
    | none, letter :: _ =>
      if isDrive name then ⟨[String.ofList [letter, ':']], true⟩
      else { l with names := Uri.enter [] (encodeName name) }
    | none, [] => { l with names := [""] }
  else { l with names := Uri.enter l.names (encodeName name) }

/-- Drops empty names at the front of a list, but not its last name. -/
def dropEmpty : List String → List String
  | "" :: name :: rest => dropEmpty (name :: rest)
  | names => names

/-- The names of the location of a file, and whether it starts with a drive. -/
def readFileNames (cs : List Char) : FileNames :=
  let parts := Text.splitCharsBy (isSlash true) cs
  let read := parts.foldl FileNames.enter {}
  let last := encodeName (withoutBreaks (parts.getLast?.getD []))
  { read with names := dropEmpty (closeNames read.names last) }

/-- The text before the query and fragment, the query, and the fragment. -/
def cutTail (special : Bool) (cs : List Char) : List Char × Option String × Option String :=
  let (before, fragment) :=
    match Text.cutFirstChars '#' cs with
    | some (before, fragment) =>
      (before, some (String.ofList (percentEncode encodedInFragment fragment)))
    | none => (cs, none)
  match Text.cutFirstChars '?' before with
  | some (location, query) =>
    (location, some (String.ofList (percentEncode (encodedInQuery special) query)), fragment)
  | none => (before, none, fragment)

/-- User and password of a host, with an at sign behind them, if there are any. -/
def userText (cs : List Char) : String :=
  let user :=
    match Text.cutFirstChars ':' cs with
    | some (name, password) =>
      let name := percentEncode encodedInUser name
      let password := percentEncode encodedInUser password
      if password.isEmpty then name else name ++ ':' :: password
    | none => percentEncode encodedInUser cs
  if user.isEmpty then "" else String.ofList user ++ "@"

/-- Cuts a text at the first colon that is not in brackets. -/
def cutHost : Bool → List Char → List Char × List Char
  | _, [] => ([], [])
  | inBrackets, c :: cs =>
    if c == ':' && !inBrackets then ([], c :: cs)
    else
      let (host, rest) := cutHost (c == '[' || (inBrackets && c != ']')) cs
      (c :: host, rest)

/-- The text of the number behind a host, which is left out if it is the usual one, and the rest. -/
def readPort (scheme : String) (cs : List Char) : Except Error (String × List Char) :=
  match cs with
  | ':' :: cs =>
    let digits := cs.takeWhile Char.isDigit
    let rest := cs.dropWhile Char.isDigit
    let value := Text.decimalValue digits
    if 65535 < value || !(rest.isEmpty || rest.head? == some '\\') then .error .badPort
    else
      let number := if digits.isEmpty then "" else ":" ++ toString value
      .ok (if hostSchemes.contains (scheme, number) then "" else number, rest)
  | cs => .ok ("", cs)

/-- What stands between two slashes and the location: user, host and number, and what is left of the
text.  `isLast` tells that nothing follows. -/
def readAuthority (scheme : String) (special isLast : Bool) (cs : List Char) :
    Except Error (String × String × String × List Char) := do
  let (userPart, place) := (Text.cutLastChars '@' cs).getD ([], cs)
  let user := userText userPart
  let (hostPart, rest) := cutHost false place
  if cs.head? == some '@' && userPart.isEmpty && place.isEmpty && !isLast then throw .emptyHost
  if hostPart.isEmpty && (special || !rest.isEmpty) then throw .emptyHost
  let host ← if special then readHost hostPart else readOpaqueHost hostPart
  let (portText, rest) ← readPort scheme rest
  if host == "" && user != "" then throw .emptyHost
  return (user, host, portText, rest)

/-- The text before and from the first character that ends a host. -/
def cutAuthority (special : Bool) (cs : List Char) : List Char × List Char :=
  (cs.takeWhile fun c => !isSlash special c, cs.dropWhile fun c => !isSlash special c)

/-- The host and the names of the location behind `file:`.  Behind a host, a slash starts the
location; where the host is missing or this machine, an empty name does. -/
def readFilePlace (cs : List Char) : Except Error (String × List String) :=
  let onThisMachine (location : List Char) : Except Error (String × List String) :=
    .ok ("", (readFileNames location).names)
  match dropSlash? cs, (dropSlash? cs).bind dropSlash? with
  | none, _ => onThisMachine cs
  | some location, none => onThisMachine location
  | some _, some rest =>
    let (place, location) := cutAuthority true rest
    let host := withoutBreaks place
    if isDrive host then onThisMachine rest
    else if host.isEmpty then onThisMachine location
    else do
      let host ← readHost host
      if host == "localhost" then onThisMachine location
      else
        let read := readFileNames (location.drop 1)
        return (if read.onDrive then "" else host, read.names)

/-- Reads what stands behind `file:`. -/
def parseFile (cs : List Char) : Except Error Uri :=
  let goesOn (c : Char) : Bool := c != '?' && c != '#'
  let (_, query, fragment) := cutTail true (withoutBreaks (cs.dropWhile goesOn))
  (readFilePlace (cs.takeWhile goesOn)).map fun (host, names) =>
    ⟨"file", "", some host, "", .names names, query, fragment⟩

/-- Reads what stands behind a scheme and, unless the scheme has hosts of its own, two slashes. -/
def parseHosted (scheme : String) (special : Bool) (cs : List Char) : Except Error Uri :=
  let (place, query, fragment) := cutTail special cs
  let (authority, location) := cutAuthority special place
  let isLast := location.isEmpty && query.isNone && fragment.isNone
  (readAuthority scheme special isLast authority).map fun (user, host, portText, rest) =>
    let location := rest ++ location
    let names :=
      if location.isEmpty && !special then .names [] else readNames special location
    ⟨scheme, user, some host, portText, names, query, fragment⟩

/-- Reads what stands behind a scheme without hosts of its own. -/
def parseOther (scheme : String) (cs : List Char) : Except Error Uri :=
  match cs with
  | '/' :: '/' :: rest => parseHosted scheme false rest
  | cs =>
    let (place, query, fragment) := cutTail false cs
    let location :=
      if place.head? == some '/' then readNames false place
      else .plain (String.ofList (percentEncode mustEncode place))
    .ok ⟨scheme, "", none, "", location, query, fragment⟩

/-- Reads a URI.  Blanks and control characters around it do not count, nor do tabs and line ends
anywhere but behind a drive; a text without a scheme is no URI. -/
def parse (s : String) : Except Error Uri :=
  let trimmed := Text.trimBoth (fun c => c.toNat ≤ 0x20) s
  match cutScheme? trimmed.toList with
  | none => .error .noScheme
  | some (scheme, rest) =>
    if scheme == "file" then parseFile rest
    else if hostSchemes.any (fun h => h.1 == scheme) then
      parseHosted scheme true ((withoutBreaks rest).dropWhile (isSlash true))
    else parseOther scheme (withoutBreaks rest)

/-- The URI that a text is. -/
def parse? (s : String) : Option Uri := (parse s).toOption

/-- The normal form of a URI. -/
def normalize? (s : String) : Option String := (parse? s).map text

/-! ### Paths -/

/-- The path a URI names: its names decoded, if they are text and no foreign host is given. -/
def filePath? (u : Uri) : Option Path :=
  if u.host.all (fun h => h == "" || h == "localhost") then
    match u.location with
    | .names (n :: ns) =>
      (Utf8.decode (percentDecode (Location.names (n :: ns)).text.toList)).map Path.mk
    | _ => none
  else none

/-- The text of the URI of a path: that of the `file` scheme for an absolute path, and for any other
the path itself behind the scheme. -/
def ofPath (p : Path) : String :=
  if p.isAbsolute then
    "file://" ++
      match p.steps with
      | [] => "/"
      | steps =>
        String.join (steps.map fun step =>
          "/" ++ String.ofList (percentEncode encodedInName step.text.toList))
  else "file://" ++ p.text

end Uri

end MockLens
