/-!
# JSON documents as written

A document is scanned once into a tree that keeps numbers and strings as they
are written: a number as its characters, a string as the characters between
its quotes with the escapes in place. Scanning decides well-formedness and
nothing else; what a number or a string means is left to whoever reads it, so
parts that nobody reads raise no objection.
-/

namespace Montage.Json

/-- A well-formed JSON document, its scalars as written. -/
inductive Document where
  | null
  | boolean (value : Bool)
  | number (lexeme : List Char)
  | string (raw : List Char)
  | array (items : List Document)
  | object (members : List (List Char × Document))

namespace Document

/-! ## Scalars -/

/-- White space between tokens. -/
def isSpace (c : Char) : Bool := c = ' ' || c = '\n' || c = '\r' || c = '\t'

/-- What follows the white space at the front. -/
def skipSpace (cs : List Char) : List Char := cs.dropWhile isSpace

/-- A hexadecimal digit. -/
def isHexDigit (c : Char) : Bool :=
  c.isDigit || ('a' ≤ c && c ≤ 'f') || ('A' ≤ c && c ≤ 'F')

/-- A character that may follow a backslash on its own. -/
def isShortEscape (c : Char) : Bool := "\"\\/bfnrt".toList.contains c

/-- Scan the rest of a string after its opening quote: the characters up to
the closing quote, and what follows. -/
def scanString : List Char → Option (List Char × List Char)
  | [] => none
  | '"' :: rest => some ([], rest)
  | '\\' :: 'u' :: a :: b :: c :: d :: rest =>
    if [a, b, c, d].all isHexDigit then
      (scanString rest).map fun (raw, rest) => ('\\' :: 'u' :: a :: b :: c :: d :: raw, rest)
    else none
  | '\\' :: c :: rest =>
    if isShortEscape c then (scanString rest).map fun (raw, rest) => ('\\' :: c :: raw, rest)
    else none
  | c :: rest =>
    if c.toNat < 0x20 then none
    else (scanString rest).map fun (raw, rest) => (c :: raw, rest)

/-- One or more digits. -/
def scanDigits (cs : List Char) : Option (List Char × List Char) :=
  let digits := cs.takeWhile Char.isDigit
  if digits.isEmpty then none else some (digits, cs.dropWhile Char.isDigit)

/-- The whole part of a number: a zero alone, or digits that begin with
another one. -/
def scanWhole (cs : List Char) : Option (List Char × List Char) :=
  match scanDigits cs with
  | some ('0' :: _ :: _, _) => none
  | found => found

/-- The fraction of a number, if there is one. -/
def scanFraction : List Char → Option (List Char × List Char)
  | '.' :: rest => (scanDigits rest).map fun (digits, rest) => ('.' :: digits, rest)
  | cs => some ([], cs)

/-- The exponent of a number, if there is one. -/
def scanExponent : List Char → Option (List Char × List Char)
  | [] => some ([], [])
  | c :: rest =>
    if c = 'e' || c = 'E' then
      match rest with
      | '+' :: rest => (scanDigits rest).map fun (digits, rest) => (c :: '+' :: digits, rest)
      | '-' :: rest => (scanDigits rest).map fun (digits, rest) => (c :: '-' :: digits, rest)
      | rest => (scanDigits rest).map fun (digits, rest) => (c :: digits, rest)
    else some ([], c :: rest)

/-- A number without its sign. -/
def scanUnsigned (cs : List Char) : Option (List Char × List Char) := do
  let (whole, rest) ← scanWhole cs
  let (fraction, rest) ← scanFraction rest
  let (exponent, rest) ← scanExponent rest
  return (whole ++ fraction ++ exponent, rest)

/-- A number. -/
def scanNumber : List Char → Option (List Char × List Char)
  | '-' :: rest => (scanUnsigned rest).map fun (lexeme, rest) => ('-' :: lexeme, rest)
  | cs => scanUnsigned cs

/-- A value other than an array or an object, at the front of a text. -/
def scanScalar : List Char → Option (Document × List Char)
  | 'n' :: 'u' :: 'l' :: 'l' :: rest => some (null, rest)
  | 't' :: 'r' :: 'u' :: 'e' :: rest => some (boolean true, rest)
  | 'f' :: 'a' :: 'l' :: 's' :: 'e' :: rest => some (boolean false, rest)
  | '"' :: rest => (scanString rest).map fun (raw, rest) => (string raw, rest)
  | cs => (scanNumber cs).map fun (lexeme, rest) => (number lexeme, rest)

/-! ## Arrays and objects

The first argument bounds the number of steps; two for each character of the
text suffice, as every second step passes a character. -/

mutual

/-- A value at the front of a text. -/
def scanValue : Nat → List Char → Option (Document × List Char)
  | 0, _ => none
  | steps + 1, cs =>
    match skipSpace cs with
    | '[' :: rest =>
      match skipSpace rest with
      | ']' :: rest => some (array [], rest)
      | rest => (scanItems steps rest).map fun (items, rest) => (array items, rest)
    | '{' :: rest =>
      match skipSpace rest with
      | '}' :: rest => some (object [], rest)
      | rest => (scanMembers steps rest).map fun (members, rest) => (object members, rest)
    | cs => scanScalar cs

/-- The items of an array from one of them on, through the closing bracket. -/
def scanItems : Nat → List Char → Option (List Document × List Char)
  | 0, _ => none
  | steps + 1, cs =>
    match scanValue steps cs with
    | none => none
    | some (item, rest) =>
      match skipSpace rest with
      | ']' :: rest => some ([item], rest)
      | ',' :: rest => (scanItems steps rest).map fun (items, rest) => (item :: items, rest)
      | _ => none

/-- The members of an object from one of them on, through the closing brace. -/
def scanMembers : Nat → List Char → Option (List (List Char × Document) × List Char)
  | 0, _ => none
  | steps + 1, cs =>
    match skipSpace cs with
    | '"' :: rest =>
      match scanString rest with
      | none => none
      | some (key, rest) =>
        match skipSpace rest with
        | ':' :: rest =>
          match scanValue steps rest with
          | none => none
          | some (value, rest) =>
            match skipSpace rest with
            | '}' :: rest => some ([(key, value)], rest)
            | ',' :: rest =>
              (scanMembers steps rest).map fun (members, rest) => ((key, value) :: members, rest)
            | _ => none
        | _ => none
    | _ => none

end

/-- The document a text holds, if it is one well-formed value with nothing but
white space around it. -/
def scan? (cs : List Char) : Option Document :=
  match scanValue (2 * cs.length + 2) cs with
  | some (document, rest) => if (skipSpace rest).isEmpty then some document else none
  | none => none

end Document

end Montage.Json
