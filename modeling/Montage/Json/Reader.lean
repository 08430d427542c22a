import Montage.Json.Number
import Montage.Json.Strings

/-!
# Reading values from a document

A reader looks for a value of one type in a document and reports the first
problem in the order of the text. Records are read from an object, whose
members may come in any order, or from an array of the fields in their listed
order. A member that no field asks for is passed over unread.
-/

namespace Montage.Json

/-- How a document is read. Set-aside members have been looked through before
and are a little more liberal about the spelling of variants. -/
structure Context where
  encoding : Encoding
  setAside : Bool

/-- A way to read a value. -/
abbrev Reader (α : Type) := Context → Document → Except Problem α

/-! ## Scalars -/

/-- The value of a number as written. -/
def readNumber (lexeme : List Char) : Except Problem Number :=
  match Number.ofLexeme? lexeme with
  | some number => .ok number
  | none => .error .numberOutOfRange

/-- What stands in a document, for a message; reading it can fail itself. -/
def found (context : Context) : Document → Except Problem Found
  | .null => .ok .null
  | .boolean value => .ok (.boolean value)
  | .number lexeme => (readNumber lexeme).map fun
    | .integer value => .integer value
    | .real value => .real value
  | .string raw => (readText context.encoding raw).map .string
  | .array _ => .ok .sequence
  | .object _ => .ok .map

/-- Refuse a document of another type. -/
def refuse {α : Type} (wanted : String) : Reader α := fun context document =>
  match found context document with
  | .error problem => .error problem
  | .ok found => .error (.wrongType found wanted)

namespace Reader

/-- A truth value. -/
def boolean : Reader Bool
  | _, .boolean value => .ok value
  | context, document => refuse "a boolean" context document

/-- A text, called `wanted` in messages. -/
def textAs (wanted : String) : Reader String
  | context, .string raw => readText context.encoding raw
  | context, document => refuse wanted context document

/-- A text. -/
def text : Reader String := textAs "a string"

/-- A file path. -/
def path : Reader String := textAs "path string"

/-- A double-precision number; integers are taken too. -/
def real : Reader Binary64
  | _, .number lexeme => (readNumber lexeme).map Number.toBinary64
  | context, document => refuse "f64" context document

/-- A natural number of 32 bits. -/
def word : Reader UInt32
  | _, .number lexeme =>
    match readNumber lexeme with
    | .error problem => .error problem
    | .ok (.integer value) =>
      if 0 ≤ value && value < UInt32.size then .ok value.toNat.toUInt32
      else .error (.wrongValue (.integer value) "u32")
    | .ok (.real value) => .error (.wrongType (.real value) "u32")
  | context, document => refuse "u32" context document

/-- A text that spells a value. -/
def spelled {α : Type} (parse : String → Except String α) : Reader α := fun context document =>
  match text context document with
  | .error problem => .error problem
  | .ok text =>
    match parse text with
    | .ok value => .ok value
    | .error message => .error (.misspelled message)

/-! ## Composites -/

/-- A value that may be left open by `null`. -/
def optional {α : Type} (reader : Reader α) : Reader (Option α)
  | _, .null => .ok none
  | context, document => (reader context document).map some

/-- A list. -/
def list {α : Type} (reader : Reader α) : Reader (List α)
  | context, .array items => items.mapM (reader context)
  | context, document => refuse "a sequence" context document

/-- The variant of a name. -/
def variantNamed {α : Type} (variants : List (String × α)) (name : String) :
    Except Problem α :=
  match variants.lookup name with
  | some value => .ok value
  | none => .error (.unknownVariant name (variants.map (·.1)))

/-- Nothing, where a variant may carry a value but none does. -/
def nothing : Reader Unit
  | _, .null => .ok ()
  | ⟨encoding, setAside⟩, .object [] =>
    if setAside then .ok () else refuse "unit" ⟨encoding, setAside⟩ (.object [])
  | context, document => refuse "unit" context document

/-- A variant by its name, or as an object with that name as its only key and
nothing as its value. -/
def variant {α : Type} (variants : List (String × α)) : Reader α := fun context document =>
  match document with
  | .string raw =>
    match readText context.encoding raw with
    | .error problem => .error problem
    | .ok name => variantNamed variants name
  | .object ((key, value) :: others) =>
    if context.setAside && !others.isEmpty then
      .error (.wrongValue .map "map with a single key")
    else do
      let name ← readText context.encoding key
      let result ← variantNamed variants name
      nothing context value
      if others.isEmpty then return result else throw .valueExpected
  | document =>
    if context.setAside then
      match document with
      | .object _ => .error (.wrongValue .map "map with a single key")
      | document => refuse "string or map" context document
    else .error .valueExpected

end Reader

/-! ## Records -/

/-- A field of a record, read into a value of the record's type. -/
structure Field (ρ : Type) where
  name : String
  /-- whether an object must have it -/
  required : Bool
  /-- whether an array must reach up to it -/
  requiredInArray : Bool
  read : Context → Document → ρ → Except Problem ρ

/-- A field that must be given. -/
def Field.needed {ρ α : Type} (name : String) (reader : Reader α) (put : α → ρ → ρ) :
    Field ρ :=
  ⟨name, true, true, fun context document record =>
    (reader context document).map fun value => put value record⟩

/-- A field that has a default. -/
def Field.defaulted {ρ α : Type} (name : String) (reader : Reader α) (put : α → ρ → ρ) :
    Field ρ :=
  { Field.needed name reader put with required := false, requiredInArray := false }

/-- A field that an object may lack but an array must hold. -/
def Field.positional {ρ α : Type} (name : String) (reader : Reader α) (put : α → ρ → ρ) :
    Field ρ :=
  { Field.needed name reader put with required := false }

/-- A record type: its name, its fields in order, and a value with the
defaults filled in. -/
structure Record (ρ : Type) where
  name : String
  fields : List (Field ρ)
  blank : ρ

namespace Record

variable {ρ : Type}

/-- The words for a record in messages. -/
def wanted (record : Record ρ) : String := "struct " ++ record.name

/-- Read members in order into a record, noting the names read so far. -/
def readMembers (record : Record ρ) (context : Context) (value : ρ) (seen : List String) :
    List (List Char × Document) → Except Problem (ρ × List String)
  | [] => .ok (value, seen)
  | (key, document) :: rest => do
    let name ← readText context.encoding key
    match record.fields.find? (·.name == name) with
    | none => record.readMembers context value seen rest
    | some field =>
      if seen.contains name then throw (.duplicateField name)
      let value ← field.read context document value
      record.readMembers context value (name :: seen) rest

/-- The first field that an object must have and that was not read. -/
def missing? (record : Record ρ) (seen : List String) : Option String :=
  (record.fields.find? fun field => field.required && !seen.contains field.name).map (·.name)

/-- Read a record from the members of an object. -/
def ofMembers (record : Record ρ) (context : Context)
    (members : List (List Char × Document)) : Except Problem ρ := do
  let (value, seen) ← record.readMembers context record.blank [] members
  match record.missing? seen with
  | some name => throw (.missingField name)
  | none => return value

/-- Read the fields of a record from the items of an array, from the field at
`index` on. -/
def readItems (record : Record ρ) (context : Context) (value : ρ) (index : Nat) :
    List (Field ρ) → List Document → Except Problem ρ
  | [], [] => .ok value
  | [], _ :: _ => .error .trailingItems
  | field :: fields, [] =>
    if field.requiredInArray then
      .error (.wrongLength index
        (record.wanted ++ " with " ++ toString record.fields.length ++ " elements"))
    else record.readItems context value (index + 1) fields []
  | field :: fields, document :: items => do
    let value ← field.read context document value
    record.readItems context value (index + 1) fields items

/-- Read a record. -/
def reader (record : Record ρ) : Reader ρ
  | context, .object members => record.ofMembers context members
  | context, .array items => record.readItems context record.blank 0 record.fields items
  | context, document => refuse record.wanted context document

end Record

/-! ## Looking through members that are set aside -/

mutual

/-- Look through a document for problems, `room` levels of arrays and objects
deep. -/
def lookThrough (encoding : Encoding) (room : Nat) : Document → Except Problem Unit
  | .null => .ok ()
  | .boolean _ => .ok ()
  | .number lexeme => (readNumber lexeme).map fun _ => ()
  | .string raw => (readText encoding raw).map fun _ => ()
  | .array items =>
    if room = 0 then .error .tooDeep else lookThroughItems encoding (room - 1) items
  | .object members =>
    if room = 0 then .error .tooDeep else lookThroughMembers encoding (room - 1) members

/-- Look through the items of an array. -/
def lookThroughItems (encoding : Encoding) (room : Nat) :
    List Document → Except Problem Unit
  | [] => .ok ()
  | item :: rest =>
    match lookThrough encoding room item with
    | .error problem => .error problem
    | .ok () => lookThroughItems encoding room rest

/-- Look through the members of an object, keys included. -/
def lookThroughMembers (encoding : Encoding) (room : Nat) :
    List (List Char × Document) → Except Problem Unit
  | [] => .ok ()
  | (key, value) :: rest =>
    match readText encoding key with
    | .error problem => .error problem
    | .ok _ =>
      match lookThrough encoding room value with
      | .error problem => .error problem
      | .ok () => lookThroughMembers encoding room rest

end

/-! ## Whole documents -/

/-- Read a value from the characters of a document. -/
def readChars {α : Type} (encoding : Encoding) (reader : Reader α) (cs : List Char) :
    Except ReadError α :=
  match Document.scan? cs with
  | none => .error .malformed
  | some document =>
    match reader ⟨encoding, false⟩ document with
    | .ok value => .ok value
    | .error problem => .error (.problem problem)

/-- Read a value from a text. -/
def ofText {α : Type} (reader : Reader α) (text : String) : Except ReadError α :=
  readChars .text reader text.toList

/-- Read a value from bytes. -/
def ofBytes {α : Type} (reader : Reader α) (bytes : Bytes) : Except ReadError α :=
  readChars .bytes reader (bytes.map fun b => Char.ofNat b.toNat)

end Montage.Json
