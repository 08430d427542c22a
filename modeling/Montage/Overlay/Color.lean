import Montage.Spelling
import Montage.Text.Blank

/-!
# Colours

A colour has three components of eight bits and is written with six
hexadecimal digits.
-/

namespace Montage

/-- A colour by its components. -/
structure Color where
  red : UInt8
  green : UInt8
  blue : UInt8
deriving DecidableEq

namespace Color

/-- The value of a hexadecimal digit of either letter case. -/
def digit? (c : Char) : Option Nat :=
  if c.isDigit then some (c.toNat - '0'.toNat)
  else if 'a' ≤ c && c ≤ 'f' then some (c.toNat - 'a'.toNat + 10)
  else if 'A' ≤ c && c ≤ 'F' then some (c.toNat - 'A'.toNat + 10)
  else none

/-- A component from its two digits. -/
def component? (high low : Char) : Option UInt8 :=
  match digit? high, digit? low with
  | some h, some l => some (16 * h + l).toUInt8
  | _, _ => none

/-- A colour from six digits. -/
def ofDigits? : List Char → Option Color
  | [a, b, c, d, e, f] =>
    match component? a b, component? c d, component? e f with
    | some red, some green, some blue => some ⟨red, green, blue⟩
    | _, _, _ => none
  | _ => none

/-- Drop one leading mark: a number sign, or a zero with an `x` of either
case. -/
def withoutMark : List Char → List Char
  | '#' :: rest => rest
  | '0' :: 'x' :: rest => rest
  | '0' :: 'X' :: rest => rest
  | cs => cs

/-- Six digits with at most one mark before them, and blanks around. -/
def ofText (text : String) : Except SpellingError Color :=
  match ofDigits? (withoutMark (Text.trimChars text.toList)) with
  | some color => .ok color
  | none => .error (.color text)

/-- A hexadecimal digit in upper case. -/
def digit (n : Nat) : Char :=
  if n < 10 then Char.ofNat ('0'.toNat + n) else Char.ofNat ('A'.toNat + (n - 10))

/-- The two digits of a component. -/
def componentDigits (component : UInt8) : List Char :=
  [digit (component.toNat / 16), digit (component.toNat % 16)]

/-- The six digits of a colour. -/
def digits (color : Color) : List Char :=
  componentDigits color.red ++ componentDigits color.green ++ componentDigits color.blue

/-- The text filters expect: `0x00FF00`. -/
def filterText (color : Color) : String := "0x" ++ String.ofList color.digits

/-- The text of manifests: `#00FF00`. -/
def manifestText (color : Color) : String := "#" ++ String.ofList color.digits

end Color

end Montage
