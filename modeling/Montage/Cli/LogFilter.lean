import Montage.Cli.Pattern
import Montage.Decimal.Reading
import Montage.Text.Alphanumeric
import Montage.Text.Blank

/-!
# Which events are logged

A filter is a list of directives between commas. A directive names a target, a
span in brackets, a field of an event in braces, a level, or several of these.
Of the directives for an event the one with the longest target decides, among
these one that names a field, and the later one of two that name the same. A
filter that cannot be read is replaced by one that logs errors.

The shape of a directive is that of its text without blanks at the ends, but
its names and levels are cut from the whole text at the positions found there:
a blank in front of a directive shifts all of them.
-/

namespace Montage.Cli

/-- Why a filter does not come about. -/
inductive FilterFault where
  | unreadable
  /-- a name or level would begin or end inside a character -/
  | brokenCharacter

/-! ## Cutting -/

/-- The size of a text in UTF-8. -/
def byteSize (cs : List Char) : Nat := (String.ofList cs).utf8ByteSize

/-- The characters before a byte position and those after it, unless the
position lies inside a character. -/
def splitAtByte? : Nat → List Char → Option (List Char × List Char)
  | 0, cs => some ([], cs)
  | _ + 1, [] => none
  | n + 1, c :: rest =>
    if c.utf8Size ≤ n + 1 then
      (splitAtByte? (n + 1 - c.utf8Size) rest).map fun (before, after) => (c :: before, after)
    else none

/-- The characters from a byte position on. -/
def cutFrom (cs : List Char) (start : Nat) : Except FilterFault (List Char) :=
  match splitAtByte? start cs with
  | some (_, after) => .ok after
  | none => .error .brokenCharacter

/-- Some bytes of a text from a position on. -/
def cut (cs : List Char) (start size : Nat) : Except FilterFault (List Char) := do
  match splitAtByte? size (← cutFrom cs start) with
  | some (before, _) => .ok before
  | none => .error .brokenCharacter

/-! ## Directives -/

/-- What is logged: everything up to a level. The levels run from 0, nothing,
over 1, errors, to 5, everything. -/
structure Directive where
  /-- the beginning of the targets that are meant; all of them without it -/
  target : Option String := none
  /-- a field that the events must have -/
  field : Option String := none
  /-- whether only events inside some span are meant -/
  inSpan : Bool := false
  level : Nat

namespace Directive

/-- The names of the levels in order. -/
def levelNames : List String := ["off", "error", "warn", "info", "debug", "trace"]

/-- The level that logs everything. -/
def everything : Nat := 5

/-- A level by its number or by its name in any letter case. -/
def levelOf? (text : String) : Option Nat :=
  match Decimal.natUpTo? 5 text with
  | some level => some level
  | none =>
    let name := text.toLower
    if levelNames.contains name then some (levelNames.idxOf name) else none

/-- The level written from a position on; without one everything is logged. -/
def levelFrom (cs : List Char) (start : Nat) : Except FilterFault Nat := do
  let text ← cutFrom cs start
  if text.isEmpty then return everything
  match levelOf? (String.ofList text) with
  | some level => return level
  | none => throw .unreadable

/-- A character that a directive may begin with. -/
def canBegin (c : Char) : Bool := c = '-' || c = ':' || c = '_' || Text.isAlphanumeric c

/-- What follows the brackets of a span: nothing, or a level. -/
def afterSpan (cs : List Char) (start : Nat) : List Char → Except FilterFault Nat
  | [] => .ok everything
  | '=' :: _ => levelFrom cs (start + 1)
  | _ => .error .unreadable

/-- Read a field: its name, and whether a pattern for its value follows. -/
def readField (cs : List Char) : Except FilterFault (String × Bool) :=
  let name := String.ofList (cs.takeWhile (· ≠ '='))
  match cs.dropWhile (· ≠ '=') with
  | [] => if cs.isEmpty then .error .unreadable else .ok (name, false)
  | _ :: rest =>
    if Pattern.isReadable (rest.takeWhile (· ≠ '=')) then .ok (name, true)
    else .error .unreadable

/-- Read a directive after an opening bracket at a position; `shape` are the
characters after it. -/
def ofSpan (cs : List Char) (target : Option String) (start : Nat) (shape : List Char) :
    Except FilterFault Directive := do
  let name := shape.takeWhile fun c => c ≠ ']' && c ≠ '\x7b'
  let position := start + byteSize name + 1
  match shape.drop name.length with
  | [] => throw .unreadable
  | ']' :: rest =>
    let _ ← cut cs start (byteSize name)
    return { target, inSpan := true, level := ← afterSpan cs position rest }
  | _ :: fields =>
    let span ← cut cs start (byteSize name)
    let written := fields.takeWhile (· ≠ '\x7d')
    match fields.drop written.length with
    | [] => throw .unreadable
    | _ :: rest =>
      let (name, hasValue) ← readField (← cut cs position (byteSize written))
      match rest with
      | ']' :: rest =>
        return {
          target
          field := some name
          inSpan := !span.isEmpty || hasValue
          level := ← afterSpan cs (position + byteSize written + 2) rest }
      | _ => throw .unreadable

/-- Read a directive. -/
def ofChars (cs : List Char) : Except FilterFault Directive :=
  match Text.trimChars cs with
  | [] => .error .unreadable
  | '[' :: rest => ofSpan cs none 1 rest
  | first :: rest =>
    if !canBegin first then .error .unreadable
    else do
      let name := rest.takeWhile fun c => c ≠ '=' && c ≠ '['
      let size := byteSize (first :: name)
      match rest.drop name.length with
      | [] =>
        let text := String.ofList cs
        match levelOf? text with
        | some level => return { level }
        | none => return { target := some text, level := everything }
      | '[' :: rest =>
        let target := String.ofList (← cut cs 0 size)
        ofSpan cs (some target) (size + 1) rest
      | _ =>
        let target := String.ofList (← cut cs 0 size)
        return { target := some target, level := ← levelFrom cs (size + 1) }

/-- Whether plain messages of a target are meant: events outside of all spans
whose only field is `message`. -/
def concerns (target : String) (directive : Directive) : Bool :=
  !directive.inSpan &&
    (match directive.target with
    | none => true
    | some name => name.toList.isPrefixOf target.toList) &&
    (match directive.field with
    | none => true
    | some name => name == "message")

/-- How closely a directive says what it means: the length of its target comes
first, and then whether it names a field. -/
def closeness (directive : Directive) : Nat :=
  2 * (match directive.target with
    | none => 0
    | some name => name.utf8ByteSize + 1) +
    (if directive.field.isSome then 1 else 0)

/-- The directive that decides on plain messages of a target. -/
def deciding? (target : String) : List Directive → Option Directive
  | [] => none
  | directive :: rest =>
    match deciding? target rest with
    | none => if directive.concerns target then some directive else none
    | some later =>
      if directive.concerns target && later.closeness < directive.closeness then some directive
      else some later

end Directive

/-! ## Filters -/

/-- The parts of a filter between commas. -/
def filterParts : List Char → List (List Char)
  | [] => [[]]
  | c :: rest =>
    match filterParts rest with
    | [] => [[c]]
    | part :: parts => if c = ',' then [] :: part :: parts else (c :: part) :: parts

/-- The directives of a filter; empty ones are passed over. -/
def directives (filter : String) : Except FilterFault (List Directive) :=
  ((filterParts filter.toList).filter fun part => !part.isEmpty).mapM Directive.ofChars

/-- Whether a filter lets plain error messages of a target through; `none` if
reading it fails halfway through a character. -/
def errorsShown? (target : String) (filter : Option String) : Option Bool :=
  match filter.map directives with
  | none => some true
  | some (.error .unreadable) => some true
  | some (.error .brokenCharacter) => none
  | some (.ok directives) =>
    match Directive.deciding? target directives with
    | some directive => some (decide (1 ≤ directive.level))
    | none => some false

end Montage.Cli
