import Montage.Binary64

/-!
# Shortest decimals

The decimal that stands for a double is the one with the fewest digits that
still reads back as that double. Grids of powers of ten are tried from coarse
to fine; the first grid with a point that reads back gives the fewest digits,
and of two such points the nearer one is taken. The finest grid, `10^-1074`,
holds every double exactly, so the search always ends.
-/

namespace Montage

/-- The positive decimal number `digits · 10^exponent`. -/
structure Decimal where
  digits : Nat
  exponent : Int
deriving DecidableEq

/-- Which of two equally near decimals is written. -/
inductive TieRule where
  /-- the larger one -/
  | up
  /-- the one whose last digit is even -/
  | even
deriving DecidableEq

namespace Decimal

/-- A double's value as a fraction with respect to the grid `10^exponent`. -/
def gridFraction (rank : Nat) (exponent : Int) : Nat × Nat :=
  match exponent with
  | .ofNat n => (Binary64.units rank, Binary64.unitsPerOne * Nat.pow 10 n)
  | .negSucc n => (Binary64.units rank * Nat.pow 10 (n + 1), Binary64.unitsPerOne)

/-- The point of the grid `10^exponent` that stands for the double of a given
rank, if one of the value's two neighbours on the grid reads back. -/
def gridPoint? (tie : TieRule) (rank : Nat) (exponent : Int) : Option Nat :=
  let (num, den) := gridFraction rank exponent
  let lower := num / den
  let upper := lower + 1
  let twice := 2 * (num % den)
  let readsBack (digits : Nat) : Bool := Binary64.decimalRank digits exponent == rank
  match readsBack lower, readsBack upper with
  | false, false => none
  | true, false => some lower
  | false, true => some upper
  | true, true =>
    if twice < den then some lower
    else if den < twice then some upper
    else match tie with
      | .up => some upper
      | .even => some (lower + lower % 2)

/-- Try the grids `10^(k-1074)`, `10^(k-1-1074)`, … down to the finest one. -/
def searchFrom (tie : TieRule) (rank : Nat) : Nat → Decimal
  | 0 => ⟨Binary64.units rank * Nat.pow 5 1074, -1074⟩
  | k + 1 =>
    match gridPoint? tie rank ((k + 1 : Nat) - 1074 : Int) with
    | some digits => ⟨digits, (k + 1 : Nat) - 1074⟩
    | none => searchFrom tie rank k

/-- The search may start at any grid coarser than twice the value. With
`2^n ≤ value`, the exponent `n / 3 + 2` will do for large values and
`n / 4 + 2` for small ones, since `8 < 10 < 16`. -/
def startingGrid (rank : Nat) : Nat :=
  let log : Int := (Binary64.units rank).log2 - 1074
  let exponent : Int := if 0 ≤ log then log / 3 + 2 else log / 4 + 2
  (exponent + 1074).toNat

/-- The shortest decimal that reads back as the double of a given nonzero
rank. -/
def shortest (tie : TieRule) (rank : Nat) : Decimal :=
  searchFrom tie rank (startingGrid rank)

end Decimal

end Montage
