import Montage.Decimal.Layout
import Montage.Text.Quoted

/-!
# JSON values and their texts

Results are built as values and written in one of two layouts: compact, all on
one line without spaces, or pretty, one item on each line and two spaces of
indentation for each level. Infinite numbers and `nan` have no JSON text and
are written as `null`.
-/

namespace Montage

/-- A JSON value. Members keep their order. -/
inductive Json where
  | null
  | boolean (value : Bool)
  | integer (value : Int)
  | real (value : Binary64)
  | string (value : String)
  | array (items : List Json)
  | object (members : List (String × Json))

namespace Json

/-- A natural number as a value. -/
def natural (n : Nat) : Json := integer n

/-- A 32-bit number as a value. -/
def word (n : UInt32) : Json := natural n.toNat

/-- A member that is left out when its value is missing. -/
def member? {α : Type} (name : String) (toJson : α → Json) : Option α → List (String × Json)
  | some value => [(name, toJson value)]
  | none => []

/-! ## Texts -/

/-- A character as it stands in a JSON string. -/
def escapedChar (c : Char) : String :=
  if c = '"' then "\\\""
  else if c = '\\' then "\\\\"
  else if c = '\n' then "\\n"
  else if c = '\r' then "\\r"
  else if c = '\t' then "\\t"
  else if c = '\x08' then "\\b"
  else if c = '\x0c' then "\\f"
  else if c.toNat < 0x20 then
    "\\u00" ++ (if c.toNat < 0x10 then "0" else "") ++ Text.hexText c.toNat
  else c.toString

/-- A text as a JSON string. -/
def stringText (text : String) : String :=
  "\"" ++ String.join (text.toList.map escapedChar) ++ "\""

/-- A value that is neither an array nor an object. -/
def scalarText : Json → String
  | boolean value => if value then "true" else "false"
  | integer value => toString value
  | real value => value.jsonText?.getD "null"
  | string value => stringText value
  | _ => "null"

mutual

/-- The compact text of a value. -/
def compactText : Json → String
  | array items => "[" ++ ",".intercalate (compactItems items) ++ "]"
  | object members => "\x7b" ++ ",".intercalate (compactMembers members) ++ "\x7d"
  | value => value.scalarText

/-- The compact texts of items. -/
def compactItems : List Json → List String
  | [] => []
  | item :: rest => compactText item :: compactItems rest

/-- The compact texts of members. -/
def compactMembers : List (String × Json) → List String
  | [] => []
  | (name, value) :: rest =>
    (stringText name ++ ":" ++ compactText value) :: compactMembers rest

end

/-- A line break and the indentation of a level. -/
def newLine (level : Nat) : String :=
  "\n" ++ String.ofList (List.replicate (2 * level) ' ')

/-- Items between brackets, one on each line of the next level; brackets with
nothing between them stay together. -/
def bracketed (opening closing : String) (level : Nat) (items : List String) : String :=
  if items.isEmpty then opening ++ closing
  else opening ++ newLine (level + 1) ++ ("," ++ newLine (level + 1)).intercalate items ++
    newLine level ++ closing

mutual

/-- The pretty text of a value at a level. -/
def prettyTextAt (level : Nat) : Json → String
  | array items => bracketed "[" "]" level (prettyItems (level + 1) items)
  | object members => bracketed "\x7b" "\x7d" level (prettyMembers (level + 1) members)
  | value => value.scalarText

/-- The pretty texts of items at a level. -/
def prettyItems (level : Nat) : List Json → List String
  | [] => []
  | item :: rest => prettyTextAt level item :: prettyItems level rest

/-- The pretty texts of members at a level. -/
def prettyMembers (level : Nat) : List (String × Json) → List String
  | [] => []
  | (name, value) :: rest =>
    (stringText name ++ ": " ++ prettyTextAt level value) :: prettyMembers level rest

end

/-- The pretty text of a value. -/
def prettyText (value : Json) : String := value.prettyTextAt 0

end Json

end Montage
