/-!
# Double-precision numbers

Times, rates, opacities and percentages are double-precision numbers. A finite
value is a sign and a *rank*: its place among the nonnegative doubles in
ascending order, so that `0` has rank 0, the least positive double rank 1, and
the next larger double always the next rank. Every finite double is a whole
number of *units* of `2^-1074`, so each operation works on whole numbers and
rounds once, a tie going to the even rank.
-/

namespace Montage

/-- The rank of infinity; every smaller rank is a finite double. -/
def Binary64.infinityRank : Nat := 0x7FF0000000000000

/-- A double-precision number. Zero has two signs; there is one `nan`. -/
inductive Binary64 where
  | nan
  | infinite (negative : Bool)
  | finite (negative : Bool) (rank : Fin Binary64.infinityRank)
deriving DecidableEq

namespace Binary64

/-! ## Ranks and units -/

/-- The number of units in one. -/
def unitsPerOne : Nat := 1 <<< 1074

/-- The number of ranks that share one spacing, `2^52`. -/
def ranksPerSpacing : Nat := 0x10000000000000

/-- How many units the double of a given rank is worth. Below `2^53` the rank
is the number of units; above, `2^52` ranks share one spacing. -/
def units (rank : Nat) : Nat :=
  let shift := rank / ranksPerSpacing - 1
  (rank - shift * ranksPerSpacing) <<< shift

/-- The whole number nearest to `num / den`, a tie going to the even one. -/
def nearestEven (num den : Nat) : Nat :=
  let floor := num / den
  let twice := 2 * (num % den)
  if twice < den then floor
  else if den < twice then floor + 1
  else floor + floor % 2

/-- The rank of the double nearest to `num / den` units, a tie going to the
even rank. From `infinityRank` on the value is too large for a finite double. -/
def nearestRank (num den : Nat) : Nat :=
  let shift := (num / den).log2 - 52
  shift * ranksPerSpacing + nearestEven num (den <<< shift)

/-- The rank of the double nearest to `digits · 10^exponent`. The two early
exits answer exponents whose power of ten need not be formed: a nonzero whole
number times `10^310` lies above all doubles, and `10^n ≥ 8^n`. -/
def decimalRank (digits : Nat) (exponent : Int) : Nat :=
  if digits = 0 then 0
  else match exponent with
    | .ofNat n =>
      if n ≥ 310 then infinityRank
      else nearestRank (digits * Nat.pow 10 n * unitsPerOne) 1
    | .negSucc n =>
      if 3 * (n + 1) > digits.log2 + 1077 then 0
      else nearestRank (digits * unitsPerOne) (Nat.pow 10 (n + 1))

/-! ## Building values -/

/-- The double of a sign and a rank; ranks past the last finite one are
infinite. -/
def ofRank (negative : Bool) (rank : Nat) : Binary64 :=
  if h : rank < infinityRank then finite negative ⟨rank, h⟩ else infinite negative

/-- The double nearest to `num / den` units. -/
def ofUnits (negative : Bool) (num den : Nat) : Binary64 :=
  ofRank negative (nearestRank num den)

/-- The double nearest to `digits · 10^exponent`. -/
def ofDecimal (negative : Bool) (digits : Nat) (exponent : Int) : Binary64 :=
  ofRank negative (decimalRank digits exponent)

/-- The double nearest to a natural number. -/
def ofNat (n : Nat) : Binary64 := ofUnits false (n * unitsPerOne) 1

instance (n : Nat) : OfNat Binary64 n := ⟨ofNat n⟩

instance : OfScientific Binary64 where
  ofScientific digits negativeExponent exponent :=
    ofDecimal false digits (if negativeExponent then -(exponent : Int) else exponent)

/-- Zero of either sign. -/
def zero (negative : Bool) : Binary64 := ofRank negative 0

/-! ## Tests and order -/

/-- Neither infinite nor `nan`. -/
def isFinite : Binary64 → Bool
  | finite _ _ => true
  | _ => false

/-- The place of a number on the line from minus to plus infinity; the two
zeros share one place and `nan` has none. -/
def place : Binary64 → Option Int
  | nan => none
  | infinite negative => some (if negative then -infinityRank else infinityRank)
  | finite negative rank => some (if negative then -rank.val else rank.val)

/-- Strictly smaller; false when either side is `nan`. -/
def lt (a b : Binary64) : Bool :=
  match a.place, b.place with
  | some x, some y => x < y
  | _, _ => false

/-- Smaller or of equal value; false when either side is `nan`. -/
def le (a b : Binary64) : Bool :=
  match a.place, b.place with
  | some x, some y => x ≤ y
  | _, _ => false

instance : LT Binary64 := ⟨fun a b => a.lt b = true⟩
instance : LE Binary64 := ⟨fun a b => a.le b = true⟩
instance (a b : Binary64) : Decidable (a < b) := inferInstanceAs (Decidable (a.lt b = true))
instance (a b : Binary64) : Decidable (a ≤ b) := inferInstanceAs (Decidable (a.le b = true))

/-- Zero of either sign. -/
def isZero (x : Binary64) : Bool := x.place == some 0

/-- A finite number above zero. -/
def isFinitePositive (x : Binary64) : Bool := x.isFinite && decide (0 < x)

/-- The larger of two numbers; a `nan` gives way to the other side. -/
def larger (a b : Binary64) : Binary64 :=
  match a.place, b.place with
  | none, _ => b
  | _, none => a
  | some x, some y => if x < y then b else a

/-! ## Arithmetic -/

/-- The signed number of units of a finite double. -/
def signedUnits (negative : Bool) (rank : Nat) : Int :=
  if negative then -(units rank : Int) else units rank

/-- Sum, rounded once. Opposite infinities have no sum, and a zero sum is
negative only if both terms are. -/
protected def add : Binary64 → Binary64 → Binary64
  | nan, _ => nan
  | _, nan => nan
  | infinite a, infinite b => if a = b then infinite a else nan
  | infinite a, finite _ _ => infinite a
  | finite _ _, infinite b => infinite b
  | finite a x, finite b y =>
    let sum := signedUnits a x + signedUnits b y
    if sum = 0 then zero (a && b) else ofUnits (decide (sum < 0)) sum.natAbs 1

/-- Product, rounded once. -/
protected def mul : Binary64 → Binary64 → Binary64
  | nan, _ => nan
  | _, nan => nan
  | infinite a, infinite b => infinite (a != b)
  | infinite a, finite b y => if y.val = 0 then nan else infinite (a != b)
  | finite a x, infinite b => if x.val = 0 then nan else infinite (a != b)
  | finite a x, finite b y => ofUnits (a != b) (units x * units y) unitsPerOne

/-- Quotient, rounded once. -/
protected def div : Binary64 → Binary64 → Binary64
  | nan, _ => nan
  | _, nan => nan
  | infinite _, infinite _ => nan
  | infinite a, finite b _ => infinite (a != b)
  | finite a _, infinite b => zero (a != b)
  | finite a x, finite b y =>
    if y.val = 0 then (if x.val = 0 then nan else infinite (a != b))
    else ofUnits (a != b) (units x * unitsPerOne) (units y)

instance : Add Binary64 := ⟨Binary64.add⟩
instance : Mul Binary64 := ⟨Binary64.mul⟩
instance : Div Binary64 := ⟨Binary64.div⟩

/-- The same number with the other sign. -/
def negate : Binary64 → Binary64
  | nan => nan
  | infinite negative => infinite (!negative)
  | finite negative rank => finite (!negative) rank

/-- The whole number nearest to `x`, halves going up, kept within `low` and
`high`; `nan` and everything below zero count as `low`. -/
def clampToNat (low high : Nat) : Binary64 → Nat
  | nan => low
  | infinite negative => if negative then low else high
  | finite negative rank =>
    if negative then low
    else min high (max low ((2 * units rank + unitsPerOne) / (2 * unitsPerOne)))

end Binary64

end Montage
