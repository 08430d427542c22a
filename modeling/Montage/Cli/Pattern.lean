import Montage.Decimal.Reading
import Montage.Json.Strings
import Montage.Text.Alphanumeric

/-!
# Patterns for values

A log filter may give a value or a pattern for the field of a span. Only
whether it can be read matters here: a number always can, and everything else
must be a well-formed regular expression. Commas, equals signs and closing
braces never occur in it, so counted repetitions cannot be closed.
-/

namespace Montage.Cli.Pattern

/-! ## Escapes -/

/-- What an escape stands for. -/
inductive Escape where
  | char (c : Char)
  | set
  | place
deriving DecidableEq

/-- A hexadecimal digit. -/
def isHexDigit (c : Char) : Bool :=
  c.isDigit || ('a' ≤ c && c ≤ 'f') || ('A' ≤ c && c ≤ 'F')

/-- A character by its code point in `count` hexadecimal digits. -/
def charByNumber? (count : Nat) (cs : List Char) : Option (Escape × List Char) :=
  let digits := cs.take count
  let n := Json.hexValue digits
  if digits.length = count && digits.all isHexDigit && n.isValidChar then
    some (.char (Char.ofNat n), cs.drop count)
  else none

/-- The characters for which a letter stands in an escape. -/
def shortEscape? : Char → Option Char
  | 'a' => some '\x07'
  | 'f' => some '\x0c'
  | 'n' => some '\n'
  | 'r' => some '\r'
  | 't' => some '\t'
  | 'v' => some '\x0b'
  | _ => none

/-- Read an escape after its backslash. Word boundaries are not supported. -/
def escape? : List Char → Option (Escape × List Char)
  | [] => none
  | c :: rest =>
    if "dswDSW".toList.contains c then some (.set, rest)
    else if c = 'x' then charByNumber? 2 rest
    else if c = 'u' then charByNumber? 4 rest
    else if c = 'U' then charByNumber? 8 rest
    else if c = 'p' || c = 'P' then
      match rest with
      | category :: rest =>
        if "clmnpszCLMNPSZ".toList.contains category then some (.set, rest) else none
      | [] => none
    else if c = 'A' || c = 'z' then some (.place, rest)
    else
      match shortEscape? c with
      | some char => some (.char char, rest)
      | none =>
        if c.isAlphanum || c = '<' || c = '>' || 0x80 ≤ c.toNat then none
        else some (.char c, rest)

/-! ## Sets in brackets -/

/-- One item of a set: a character, or an escape that is no place. -/
def setItem? : List Char → Option (Escape × List Char)
  | [] => none
  | '\\' :: rest => (escape? rest).filter fun item => item.1 ≠ .place
  | c :: rest => some (.char c, rest)

/-- An item or a range of characters. -/
def setRange? (cs : List Char) : Option (List Char) := do
  let (first, rest) ← setItem? cs
  match rest with
  | [] => none
  | ['-'] => none
  | '-' :: ']' :: _ => return rest
  | '-' :: '-' :: _ => return rest
  | '-' :: rest =>
    let (last, rest) ← setItem? rest
    match first, last with
    | .char a, .char b => if a ≤ b then return rest else none
    | _, _ => none
  | _ => return rest

/-- What follows an opening bracket: a caret, dashes, and a closing bracket
that stands for itself. -/
def afterOpening (cs : List Char) : List Char :=
  let cs := if cs.head? = some '^' then cs.drop 1 else cs
  let rest := cs.dropWhile (· = '-')
  if rest.length = cs.length && rest.head? = some ']' then rest.drop 1 else rest

/-- What follows a set with `open` brackets still open; at most `fuel` items
are read. -/
def afterSet? (fuel depth : Nat) (cs : List Char) : Option (List Char) :=
  match fuel, cs with
  | 0, _ => none
  | _, [] => none
  | fuel + 1, '[' :: rest => afterSet? fuel (depth + 1) (afterOpening rest)
  | fuel + 1, ']' :: rest => if depth ≤ 1 then some rest else afterSet? fuel (depth - 1) rest
  | fuel + 1, '&' :: '&' :: rest => afterSet? fuel depth rest
  | fuel + 1, '-' :: '-' :: rest => afterSet? fuel depth rest
  | fuel + 1, '~' :: '~' :: rest => afterSet? fuel depth rest
  | fuel + 1, cs => (setRange? cs).bind (afterSet? fuel depth)

/-! ## Groups -/

/-- Flags that are each given once; a dash among them turns off those after
it and does not come last. -/
def areFlags (flags : List Char) : Bool :=
  flags.all (fun c => "imsUuRx-".toList.contains c) && decide flags.Nodup &&
    flags.getLast? ≠ some '-'

/-- A name of a group. -/
def isGroupName : List Char → Bool
  | [] => false
  | first :: rest =>
    (first = '_' || (Text.isAlphanumeric first && !first.isDigit)) &&
      rest.all fun c => c = '_' || c = '.' || c = '[' || c = ']' || Text.isAlphanumeric c

/-- What follows the name of a group. -/
def afterName? (cs : List Char) : Option (List Char) :=
  match cs.dropWhile (· ≠ '>') with
  | _ :: rest => if isGroupName (cs.takeWhile (· ≠ '>')) then some rest else none
  | [] => none

/-- The head of a group after its parenthesis: whether a group is opened, and
what follows. -/
def groupHead? : List Char → Option (Bool × List Char)
  | '?' :: 'P' :: '<' :: rest => (afterName? rest).map (true, ·)
  | '?' :: '<' :: rest => (afterName? rest).map (true, ·)
  | '?' :: rest =>
    let flags := rest.takeWhile fun c => c ≠ ':' && c ≠ ')'
    match rest.drop flags.length with
    | ':' :: rest => if areFlags flags then some (true, rest) else none
    | ')' :: rest => if areFlags flags && !flags.isEmpty then some (false, rest) else none
    | _ => none
  | cs => some (true, cs)

/-! ## Expressions -/

/-- Whether characters complete an expression in which `depth` groups are
open; `repeatable` says whether something stands in front that a repetition
may follow. At most `fuel` items are read. -/
def completes (fuel depth : Nat) (repeatable : Bool) (cs : List Char) : Bool :=
  match fuel, cs with
  | 0, _ => false
  | _, [] => depth = 0
  | fuel + 1, '(' :: rest =>
    match groupHead? rest with
    | some (true, rest) => completes fuel (depth + 1) false rest
    | some (false, rest) => completes fuel depth false rest
    | none => false
  | fuel + 1, ')' :: rest => depth ≠ 0 && completes fuel (depth - 1) true rest
  | fuel + 1, '|' :: rest => completes fuel depth false rest
  | fuel + 1, '[' :: rest =>
    match afterSet? fuel 1 (afterOpening rest) with
    | some rest => completes fuel depth true rest
    | none => false
  | fuel + 1, '\\' :: rest =>
    match escape? rest with
    | some (_, rest) => completes fuel depth true rest
    | none => false
  | fuel + 1, c :: rest =>
    if c = '\x7b' then false
    else if c = '*' || c = '+' || c = '?' then
      repeatable &&
        completes fuel depth true (if rest.head? = some '?' then rest.drop 1 else rest)
    else completes fuel depth true rest

/-- Whether the text of a value can be read. -/
def isReadable (cs : List Char) : Bool :=
  (Binary64.ofText? (String.ofList cs)).isSome || completes (cs.length + 1) 0 false cs

end Montage.Cli.Pattern
