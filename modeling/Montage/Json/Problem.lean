import Montage.Decimal.Layout
import Montage.Decimal.Reading
import Montage.Text.Quoted

/-!
# What can be wrong with a document

A well-formed document may still not describe the value a reader wants. The
causes and their wording are listed here.
-/

namespace Montage.Json

/-- What a reader found where it wanted something else. -/
inductive Found where
  | null
  | boolean (value : Bool)
  | integer (value : Int)
  | real (value : Binary64)
  | string (value : String)
  | sequence
  | map

/-- Text between backquotes. -/
def ticked (text : String) : String := "\x60" ++ text ++ "\x60"

/-- How a finding is worded. -/
def Found.text : Found → String
  | null => "null"
  | boolean value => "boolean " ++ ticked (if value then "true" else "false")
  | integer value => "integer " ++ ticked (toString value)
  | real value => "floating point " ++ ticked (value.jsonText?.getD value.plainText)
  | string value => "string " ++ Text.quoted value
  | sequence => "sequence"
  | map => "map"

/-- Why a well-formed document cannot be read. -/
inductive Problem where
  | missingField (name : String)
  | duplicateField (name : String)
  | unknownVariant (name : String) (known : List String)
  | wrongType (found : Found) (wanted : String)
  | wrongValue (found : Found) (wanted : String)
  | wrongLength (length : Nat) (wanted : String)
  | trailingItems
  | numberOutOfRange
  | unfinishedEscape
  | loneSurrogate
  | invalidCodePoint
  | valueExpected
  | tooDeep
  /-- a text that is no spelling of the value it should spell -/
  | misspelled (message : String)

/-- A list of names to choose from. -/
def oneOf : List String → String
  | [] => "there are no variants"
  | [a] => "expected " ++ ticked a
  | [a, b] => "expected " ++ ticked a ++ " or " ++ ticked b
  | names => "expected one of " ++ ", ".intercalate (names.map ticked)

/-- A text without its last part from the mark on, and that part; the mark is
left out of both. -/
def splitAtLast? (mark : List Char) : List Char → Option (List Char × List Char)
  | [] => none
  | c :: rest =>
    match splitAtLast? mark rest with
    | some (before, after) => some (c :: before, after)
    | none => if mark.isPrefixOf (c :: rest) then some ([], (c :: rest).drop mark.length) else none

/-- Whether some characters are a line and a column, both of 64 bits. -/
def isPosition (cs : List Char) : Bool :=
  let number := fun digits => match Decimal.digitsOnly? digits with
    | some n => decide (n < UInt64.size)
    | none => false
  let (line, rest) := Decimal.spanDigits cs
  let mark := " column ".toList
  number line && mark.isPrefixOf rest && number (rest.drop mark.length)

/-- A message without a position at its end: a position is reported apart from
the message, and one that the message brings along is taken for it. -/
def withoutPosition (message : String) : String :=
  match splitAtLast? " at line ".toList message.toList with
  | some (before, after) => if isPosition after then String.ofList before else message
  | none => message

/-- How a problem is worded. -/
def Problem.message : Problem → String
  | missingField name => "missing field " ++ ticked name
  | duplicateField name => "duplicate field " ++ ticked name
  | unknownVariant name known => "unknown variant " ++ ticked name ++ ", " ++ oneOf known
  | wrongType found wanted => "invalid type: " ++ found.text ++ ", expected " ++ wanted
  | wrongValue found wanted => "invalid value: " ++ found.text ++ ", expected " ++ wanted
  | wrongLength length wanted =>
    "invalid length " ++ toString length ++ ", expected " ++ wanted
  | trailingItems => "trailing characters"
  | numberOutOfRange => "number out of range"
  | unfinishedEscape => "unexpected end of hex escape"
  | loneSurrogate => "lone leading surrogate in hex escape"
  | invalidCodePoint => "invalid unicode code point"
  | valueExpected => "expected value"
  | tooDeep => "recursion limit exceeded"
  | misspelled message => withoutPosition message

/-- Why a text or some bytes cannot be read. -/
inductive ReadError where
  | malformed
  | problem (cause : Problem)

/-- How a failure is worded. -/
def ReadError.message : ReadError → String
  | malformed => "malformed JSON"
  | problem cause => cause.message

end Montage.Json
