import Montage.Decimal.Shortest

/-!
# Layouts of numbers

Two layouts are used. Filter bodies, arguments and messages write numbers
*plainly*: never an exponent, and no point unless a fraction follows. JSON
documents write a point always and an exponent for very large and very small
numbers.
-/

namespace Montage

/-- A run of zeros. -/
def zeros (count : Nat) : String := String.ofList (List.replicate count '0')

namespace Decimal

/-- The digits with a point before the last `places` of them, padded with
zeros so that a digit stands on each side. -/
def withPoint (digits : String) (places : Nat) : String :=
  let padded := (zeros (places + 1 - digits.length) ++ digits).toList
  let whole := padded.length - places
  String.ofList (padded.take whole) ++ "." ++ String.ofList (padded.drop whole)

/-- Positional text without a needless point: `20`, `2.5`, `0.0004`. -/
def plainText (d : Decimal) : String :=
  match d.exponent with
  | .ofNat n => toString d.digits ++ zeros n
  | .negSucc n => withPoint (toString d.digits) (n + 1)

/-- Positional text with a point and a digit after it: `20.0`, `2.5`. -/
def pointedText (d : Decimal) : String :=
  if d.exponent < 0 then d.plainText else d.plainText ++ ".0"

/-- Scientific text: one digit before the point and a signed exponent. -/
def scientificText (d : Decimal) : String :=
  let digits := toString d.digits
  let power : Int := d.exponent + digits.length - 1
  let mantissa :=
    if digits.length = 1 then digits else withPoint digits (digits.length - 1)
  mantissa ++ (if power < 0 then "e-" else "e+") ++ toString power.natAbs

/-- JSON text: positional with a point from `0.00001` up to sixteen digits
before the point, scientific elsewhere. -/
def jsonText (d : Decimal) : String :=
  let point : Int := (toString d.digits).length + d.exponent
  if -5 < point && point ≤ 16 then d.pointedText else d.scientificText

end Decimal

namespace Binary64

private def signText (negative : Bool) : String := if negative then "-" else ""

/-- A number in the plain layout; a negative zero keeps its sign. -/
def plainText : Binary64 → String
  | nan => "NaN"
  | infinite negative => signText negative ++ "inf"
  | finite negative rank =>
    signText negative ++
      (if rank.val = 0 then "0" else (Decimal.shortest .up rank).plainText)

/-- A number in the plain layout, zero without a sign. -/
def unsignedZeroText (x : Binary64) : String := (x + 0).plainText

/-- A finite number in the JSON layout; JSON has no text for the others. -/
def jsonText? : Binary64 → Option String
  | finite negative rank =>
    some (signText negative ++
      (if rank.val = 0 then "0.0" else (Decimal.shortest .even rank).jsonText))
  | _ => none

/-- A number with one decimal place, the exact value rounded to the nearest
tenth and a tie to the even one. -/
def tenthsText : Binary64 → String
  | nan => "NaN"
  | infinite negative => signText negative ++ "inf"
  | finite negative rank =>
    let tenths := nearestEven (units rank * 10) unitsPerOne
    signText negative ++ toString (tenths / 10) ++ "." ++ toString (tenths % 10)

end Binary64

end Montage
