import Montage.Decimal.Reading
import Montage.Json.Document

/-!
# Numbers of a JSON document

A number without fraction and exponent that fits 64 bits is an integer. Every
other number is a double, found in a fixed way: the leading digits that fit a
64-bit significand are read as a whole number, the rest only move the decimal
point, and the significand is then multiplied or divided once by a power of
ten. Two roundings can take place, so the result may differ from the nearest
double in its last place; a power of ten past `10^308` is refused.
-/

namespace Montage.Json

/-- A number of a document. -/
inductive Number where
  | integer (value : Int)
  | real (value : Binary64)

namespace Number

/-- The first value that does not fit a significand. -/
def significandBound : Nat := UInt64.size

/-- Read digits onto a significand for as long as it fits: the significand and
the number of digits read. -/
def significand (start : Nat) : List Char → Nat × Nat
  | [] => (start, 0)
  | c :: rest =>
    let next := start * 10 + Decimal.digitValue c
    if next < significandBound then
      let (value, count) := significand next rest
      (value, count + 1)
    else (start, 0)

/-- `10^n` as a double. -/
def powerOfTen (n : Nat) : Binary64 := Binary64.ofDecimal false 1 n

/-- Divide by `10^n`, in steps of at most `10^308`. After three full steps
every significand has become zero. -/
def divideByPower (x : Binary64) (n : Nat) : Binary64 :=
  let steps := (n - 1) / 308
  Nat.repeat (· / powerOfTen 308) (min steps 3) x / powerOfTen (n - 308 * steps)

/-- The double of a significand and an exponent of ten, or `none` if it is too
large. -/
def scaled? (significand : Nat) (exponent : Int) : Option Binary64 :=
  let x := Binary64.ofNat significand
  match exponent with
  | .ofNat n =>
    if x.isZero then some x
    else if n > 308 then none
    else
      let product := x * powerOfTen n
      if product.isFinite then some product else none
  | .negSucc n => some (divideByPower x (n + 1))

/-- The pieces of a number as written. -/
structure Lexeme where
  negative : Bool
  whole : List Char
  fraction : List Char
  /-- the exponent, if one is written -/
  exponent : Option Int
  isInteger : Bool

/-- Split a scanned number into its pieces. -/
def Lexeme.ofChars (cs : List Char) : Lexeme :=
  let (negative, cs) := match cs with
    | '-' :: rest => (true, rest)
    | cs => (false, cs)
  let (whole, rest) := Decimal.spanDigits cs
  let (fraction, rest') := match rest with
    | '.' :: rest => Decimal.spanDigits rest
    | rest => ([], rest)
  ⟨negative, whole, fraction, if rest'.isEmpty then none else Decimal.exponentPart? rest',
    rest.isEmpty⟩

/-- An exponent is read as a 32-bit number. Beyond it the value is zero or too
large, as it is at the bound. -/
def clampExponent (exponent : Int) : Int := max (-0x80000000) (min 0x80000000 exponent)

/-- The value of a scanned number, or `none` if it is too large for a double. -/
def ofLexeme? (cs : List Char) : Option Number :=
  let lexeme := Lexeme.ofChars cs
  let (start, wholeCount) := significand 0 lexeme.whole
  let (value, fractionCount) := significand start lexeme.fraction
  let dropped := lexeme.whole.length - wholeCount
  let fits := !lexeme.negative || (0 < value && value ≤ UInt64.size / 2)
  if lexeme.isInteger && dropped == 0 && fits then
    some (integer (if lexeme.negative then -(value : Int) else value))
  else
    let exponent := clampExponent (lexeme.exponent.getD 0) + dropped - fractionCount
    (scaled? value exponent).map fun x => real (if lexeme.negative then x.negate else x)

/-- A number as a double; an integer becomes the nearest one. -/
def toBinary64 : Number → Binary64
  | integer value => Binary64.ofUnits (decide (value < 0)) (value.natAbs * Binary64.unitsPerOne) 1
  | real value => value

end Number

end Montage.Json
