import Montage.Binary64

/-!
# Reading numbers

Whole numbers are ASCII digits with an optional plus sign and an upper bound.
Decimal numbers have an optional sign, digits with an optional point, and an
optional exponent; `inf`, `infinity` and `nan` are read in any letter case.
Nothing else is accepted, not even surrounding blanks.
-/

namespace Montage

namespace Decimal

/-- The value of a digit. -/
def digitValue (c : Char) : Nat := c.toNat - '0'.toNat

/-- The value of a run of digits. -/
def digitsValue (digits : List Char) : Nat :=
  digits.foldl (fun value c => 10 * value + digitValue c) 0

/-- The digits a text begins with, and what follows them. -/
def spanDigits (cs : List Char) : List Char × List Char :=
  (cs.takeWhile Char.isDigit, cs.dropWhile Char.isDigit)

/-- The value of a nonempty text of digits. -/
def digitsOnly? (cs : List Char) : Option Nat :=
  if cs.isEmpty || !cs.all Char.isDigit then none else some (digitsValue cs)

/-- A whole number of at most `bound`, with an optional plus sign. -/
def natUpTo? (bound : Nat) (text : String) : Option Nat :=
  let digits := match text.toList with
    | '+' :: rest => rest
    | cs => cs
  match digitsOnly? digits with
  | some n => if n ≤ bound then some n else none
  | none => none

/-- A whole number of 32 bits, with an optional plus sign. -/
def word? (text : String) : Option UInt32 :=
  (natUpTo? (UInt32.size - 1) text).map Nat.toUInt32

/-- The exponent part of a decimal number: nothing, or `e` with an optionally
signed whole number. -/
def exponentPart? : List Char → Option Int
  | [] => some 0
  | c :: rest =>
    if c = 'e' || c = 'E' then
      match rest with
      | '-' :: digits => (digitsOnly? digits).map fun n => -(n : Int)
      | '+' :: digits => (digitsOnly? digits).map fun n => (n : Int)
      | digits => (digitsOnly? digits).map fun n => (n : Int)
    else none

/-- An unsigned decimal number as whole digits and an exponent of ten. At
least one digit must stand before or after the point. -/
def unsigned? (cs : List Char) : Option (Nat × Int) :=
  let (whole, rest) := spanDigits cs
  let (fraction, rest) := match rest with
    | '.' :: rest => spanDigits rest
    | rest => ([], rest)
  if whole.isEmpty && fraction.isEmpty then none
  else (exponentPart? rest).map fun exponent =>
    (digitsValue (whole ++ fraction), exponent - fraction.length)

end Decimal

namespace Binary64

/-- The named values, in any letter case. -/
def ofName? (negative : Bool) (cs : List Char) : Option Binary64 :=
  let name := cs.map Char.toLower
  if name = "inf".toList || name = "infinity".toList then some (infinite negative)
  else if name = "nan".toList then some nan
  else none

/-- Read a number without a sign. -/
def ofUnsignedText? (negative : Bool) (cs : List Char) : Option Binary64 :=
  match Decimal.unsigned? cs with
  | some (digits, exponent) => some (ofDecimal negative digits exponent)
  | none => ofName? negative cs

/-- Read a decimal number, correctly rounded. -/
def ofText? (text : String) : Option Binary64 :=
  match text.toList with
  | '-' :: rest => ofUnsignedText? true rest
  | '+' :: rest => ofUnsignedText? false rest
  | cs => ofUnsignedText? false cs

end Binary64

end Montage
