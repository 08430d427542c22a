import Montage.Host.Disk
import Montage.Host.Environment
import Montage.Text.Alphanumeric
import Montage.Text.Blank

/-!
# Environment files

A file of assignments `NAME=value` adds to the environment; variables that are
set already keep their values. Values may be quoted and may then run over
several lines, a backslash takes the next character as it is, and a dollar sign
puts in the value of another variable. Reading stops at the first line that is
no assignment, comment or blank.
-/

namespace Montage.Cli.EnvironmentFile

/-! ## Lines -/

/-- Where a scan for the end of an assignment stands. -/
inductive Scan where
  | plain
  | afterBlank
  | escaped
  | quoted (mark : Char)
  | escapedInQuotes (mark : Char)
deriving DecidableEq

/-- Whether a character opens a quotation. -/
def isQuote (c : Char) : Bool := c = '"' || c = '\''

/-- The state after a character outside of quotations. -/
def Scan.outside (c : Char) : Scan :=
  if c = '\\' then escaped else if isQuote c then quoted c else plain

/-- The state after a character. -/
def Scan.next (scan : Scan) (c : Char) : Scan :=
  match scan with
  | plain => if Text.isBlank c && c ≠ '\n' && c ≠ '\r' then afterBlank else outside c
  | afterBlank => outside c
  | escaped => plain
  | quoted mark =>
    if c = '\\' then escapedInQuotes mark else if c = mark then plain else quoted mark
  | escapedInQuotes mark => quoted mark

/-- Scan a line: the part before a comment, if there is one, and the state at
the end. -/
def scanLine (scan : Scan) : List Char → Option (List Char) × Scan
  | [] => (none, scan)
  | c :: rest =>
    if scan = .afterBlank && c = '#' then (some [], .plain)
    else
      let (before, last) := scanLine (scan.next c) rest
      (before.map (c :: ·), last)

/-- A line without its line break. -/
def withoutBreak (cs : List Char) : List Char :=
  match cs.reverse with
  | '\n' :: '\r' :: rest => rest.reverse
  | '\n' :: rest => rest.reverse
  | _ => cs

/-- Whether a line is a comment as a whole. -/
def isComment (cs : List Char) : Bool := (Text.trimLeft cs).head? == some '#'

/-- Join lines as far as quotations and escapes run over their ends. What is
still open at the end is left out. -/
def assignments (pending : List Char) (scan : Scan) : List (List Char) → List (List Char)
  | [] => []
  | line :: rest =>
    let whole := pending ++ line
    if isComment whole then assignments [] .plain rest
    else
      match scanLine scan line with
      | (some before, _) => (pending ++ before) :: assignments [] .plain rest
      | (none, .plain) => withoutBreak whole :: assignments [] .plain rest
      | (none, scan) => assignments whole scan rest

/-! ## Values -/

/-- How a value is being read. -/
structure ValueState where
  singleQuoted : Bool := false
  doubleQuoted : Bool := false
  escaped : Bool := false
  /-- after a blank only a comment may follow -/
  ended : Bool := false
  /-- inside the name of a variable, with or without braces -/
  naming : Option Bool := none
  /-- the name of the variable so far -/
  name : List Char := []
  /-- the value so far -/
  value : List Char := []

namespace ValueState

/-- Put in the value of the variable named so far. -/
def substitute (lookup : String → String) (state : ValueState) : ValueState :=
  { state with
    naming := none
    name := []
    value := state.value ++ (lookup (String.ofList state.name)).toList }

/-- Take a character as it is. -/
def push (state : ValueState) (c : Char) : ValueState :=
  { state with value := state.value ++ [c] }

/-- The state after an escaped character. -/
def afterEscape? (state : ValueState) (c : Char) : Option ValueState :=
  let state := { state with escaped := false }
  if "\\'\"$ ".toList.contains c then some (state.push c)
  else if c = 'n' then some (state.push '\n')
  else none

/-- The state after a character that may belong to a variable's name, which
consists of letters and digits. -/
def inName (lookup : String → String) (state : ValueState) (braced : Bool) (c : Char) :
    ValueState :=
  if Text.isAlphanumeric c then { state with name := state.name ++ [c] }
  else if braced then
    if c = '\x7d' then state.substitute lookup else { state with name := state.name ++ [c] }
  else if c = '\x7b' && state.name.isEmpty then { state with naming := some true }
  else
    let state := state.substitute lookup
    if c = '$' then { state with naming := some false } else state.push c

/-- The state after a character outside of single quotes, escapes and names. -/
def ordinary (state : ValueState) (c : Char) : ValueState :=
  if c = '$' then { state with naming := some false }
  else if c = '\\' then { state with escaped := true }
  else if state.doubleQuoted then
    if c = '"' then { state with doubleQuoted := false } else state.push c
  else if c = '\'' then { state with singleQuoted := true }
  else if c = '"' then { state with doubleQuoted := true }
  else if c = ' ' || c = '\t' then { state with ended := true }
  else state.push c

/-- The value at the end, unless a quotation or a brace is still open. -/
def finish? (lookup : String → String) (state : ValueState) : Option String :=
  if state.naming = some true || state.singleQuoted || state.doubleQuoted then none
  else some (String.ofList (state.substitute lookup).value)

/-- Read a value from its characters. -/
def read? (lookup : String → String) (state : ValueState) : List Char → Option String
  | [] => state.finish? lookup
  | c :: rest =>
    if state.ended then
      if c = ' ' || c = '\t' then read? lookup state rest
      else if c = '#' then state.finish? lookup
      else none
    else if state.escaped then
      match state.afterEscape? c with
      | some state => read? lookup state rest
      | none => none
    else if state.singleQuoted then
      if c = '\'' then read? lookup { state with singleQuoted := false } rest
      else read? lookup (state.push c) rest
    else
      match state.naming with
      | some braced => read? lookup (state.inName lookup braced c) rest
      | none => read? lookup (state.ordinary c) rest

end ValueState

/-! ## Assignments -/

/-- A name at the front of a line, and what follows it. -/
def name? (cs : List Char) : Option (String × List Char) :=
  match cs with
  | [] => none
  | first :: _ =>
    let belongs := fun c : Char => c.isAlphanum || c = '_' || c = '.'
    if first.isAlpha || first = '_' then
      some (String.ofList (cs.takeWhile belongs), cs.dropWhile belongs)
    else none

/-- What follows an equals sign, with blanks before and after it. -/
def afterEquals? (cs : List Char) : Option (List Char) :=
  match Text.trimLeft cs with
  | '=' :: rest => some (Text.trimLeft rest)
  | _ => none

/-- The name of an assignment and the characters of its value; the word
`export` may stand before the name. -/
def assignment? (cs : List Char) : Option (String × List Char) := do
  let (name, rest) ← name? cs
  match afterEquals? rest with
  | some value => return (name, value)
  | none =>
    if name = "export" then
      let (name, rest) ← name? (Text.trimLeft rest)
      return (name, ← afterEquals? rest)
    else none

/-- The value that a dollar sign and a name stand for: the environment's, or
else the one read last. -/
def valueOf (environment : Environment) (known : List (String × String)) (name : String) :
    String :=
  ((environment.text? name).or (known.lookup name)).getD ""

/-- Add assignments to an environment; `known` holds the values read so far,
the last one first. There is no result if a variable would be set to a value
that no environment can hold. -/
def apply (environment : Environment) (known : List (String × String)) :
    List (List Char) → Option Environment
  | [] => some environment
  | line :: rest =>
    let cs := Text.trimChars line
    if cs.isEmpty || isComment cs then apply environment known rest
    else
      match assignment? cs with
      | none => some environment
      | some (name, text) =>
        let value? :=
          if text.isEmpty || isComment text then some ""
          else ValueState.read? (valueOf environment known) {} text
        match value? with
        | none => some environment
        | some value =>
          let known := (name, value) :: known
          if (environment.text? name).isSome then apply environment known rest
          else if !Environment.canHold value then none
          else apply (environment.set name value) known rest

/-! ## Files -/

/-- The lines of some bytes with their breaks. -/
def lines : Bytes → List Bytes
  | [] => []
  | b :: rest =>
    if b = 10 then [b] :: lines rest
    else
      match lines rest with
      | [] => [[b]]
      | line :: more => (b :: line) :: more

/-- Bytes without the mark that some editors put at the front. -/
def withoutMark : Bytes → Bytes
  | 0xef :: 0xbb :: 0xbf :: rest => rest
  | bytes => bytes

/-- The texts of lines up to the first one that is no text. -/
def texts : List Bytes → List (List Char)
  | [] => []
  | line :: rest =>
    match Text.Utf8.decode? line with
    | some text => text.toList :: texts rest
    | none => []

/-- The environment with the assignments of a file. -/
def load (environment : Environment) (bytes : Bytes) : Option Environment :=
  apply environment [] (assignments [] .plain (texts (lines (withoutMark bytes))))

/-- The content of the environment file in a directory or above it; the names
on the way to the directory are given in reverse. -/
def search (disk : Disk) : List String → Option Bytes
  | [] => ofNode (disk.node? [".env"])
  | name :: above =>
    match ofNode (disk.node? ((name :: above).reverse ++ [".env"])) with
    | some bytes => some bytes
    | none => search disk above
where
  /-- The content of a file. -/
  ofNode : Option Node → Option Bytes
    | some (.file bytes _) => some bytes
    | _ => none

/-- The environment with the assignments of the file in a directory or above
it, if there is one. -/
def extend (environment : Environment) (disk : Disk) (directory : Place) :
    Option Environment :=
  match search disk directory.reverse with
  | some bytes => load environment bytes
  | none => some environment

end Montage.Cli.EnvironmentFile
