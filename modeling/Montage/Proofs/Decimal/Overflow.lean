import Montage.Proofs.Decimal.ReadBack

/-!
# Overflow

A value is rounded to infinity from the middle between the largest double and
the next power of two on (`nearestRank_lt_infinityRank_iff`). In terms of the
exact values this says which sums, products and quotients of finite doubles
are finite (`isFinite_add_iff`, `isFinite_mul_iff`, `isFinite_div_iff`).
-/

namespace Montage.Binary64

/-! ## Rounding -/

/-- Below an even number a value stays below it when it is rounded, unless it is
nearer to that number, or just as near. -/
theorem nearestEven_lt_iff {num den bound : Nat} (positive : 0 < den) (even : bound % 2 = 0) :
    nearestEven num den < bound ↔ 2 * num + den < 2 * bound * den := by
  have split : den * (num / den) + num % den = num := Nat.div_add_mod num den
  have small : num % den < den := Nat.mod_lt num positive
  have inside : den * (num / den) = num / den * den := Nat.mul_comm _ _
  unfold nearestEven
  dsimp only
  rcases Nat.lt_trichotomy (num / den + 1) bound with below | top | above
  · -- there is a whole number in between
    have room : (num / den + 2) * den ≤ bound * den := Nat.mul_le_mul_right den below
    rw [Nat.add_mul] at room
    have stays : 2 * num + den < 2 * bound * den := by
      rw [Nat.mul_assoc]
      omega
    refine ⟨fun _ => stays, fun _ => ?_⟩
    split
    · omega
    · split <;> omega
  · -- the nearest number is this one or the even bound, and a tie goes to the bound
    obtain rfl := top
    have same : 2 * (num / den + 1) * den = 2 * (num / den * den) + 2 * den := by
      rw [Nat.mul_assoc, Nat.add_mul]
      omega
    rw [same]
    split
    · omega
    · split <;> omega
  · have room : bound * den ≤ num / den * den := Nat.mul_le_mul_right den (by omega)
    have leaves : ¬ 2 * num + den < 2 * bound * den := by
      rw [Nat.mul_assoc]
      omega
    refine ⟨fun less => ?_, fun less => absurd less leaves⟩
    split at less
    · omega
    · split at less <;> omega

theorem nearestEven_bounds (num den : Nat) :
    num / den ≤ nearestEven num den ∧ nearestEven num den ≤ num / den + 1 := by
  unfold nearestEven
  dsimp only
  split
  · omega
  · split <;> omega

/-- The spacing of a whole number of units leaves 53 bits of it, and no fewer if
it is not the least one. -/
theorem shift_bounds (whole : Nat) :
    whole < 2 ^ (53 + (whole.log2 - 52)) ∧
      (whole.log2 - 52 ≠ 0 → 2 ^ (52 + (whole.log2 - 52)) ≤ whole) := by
  rcases Nat.eq_zero_or_pos whole with rfl | positive
  · exact ⟨Nat.two_pow_pos _, fun above => absurd rfl above⟩
  · have some_ : whole ≠ 0 := Nat.ne_of_gt positive
    rw [← Nat.log2_lt some_, ← Nat.le_log2 some_]
    omega

/-- A value is rounded to a significand of 53 bits, or to the power of two above
them. -/
theorem nearestEven_shiftLeft_bounds {num den shift : Nat}
    (shifted : shift = (num / den).log2 - 52) :
    nearestEven num (den <<< shift) ≤ 2 ^ 53 ∧
      (shift ≠ 0 → 2 ^ 52 ≤ nearestEven num (den <<< shift)) := by
  obtain ⟨below, above⟩ := shift_bounds (num / den)
  obtain ⟨lower, upper⟩ := nearestEven_bounds num (den <<< shift)
  rw [← shifted, Nat.pow_add] at below above
  have floor : num / (den <<< shift) = num / den / 2 ^ shift := by
    rw [Nat.shiftLeft_eq, Nat.div_div_eq_div_mul]
  rw [floor] at lower upper
  have top : num / den / 2 ^ shift < 2 ^ 53 :=
    (Nat.div_lt_iff_lt_mul (Nat.two_pow_pos _)).mpr below
  refine ⟨by omega, fun spaced => ?_⟩
  have bottom : 2 ^ 52 ≤ num / den / 2 ^ shift :=
    (Nat.le_div_iff_mul_le (Nat.two_pow_pos _)).mpr (above spaced)
  omega

/-- The least number of units that is rounded to infinity: the middle between
the largest double and `2^1024`. -/
def overflowUnits : Nat := 0x3FFFFFFFFFFFFF <<< 2044

theorem overflowUnits_pos : 0 < overflowUnits := by
  rw [overflowUnits, Nat.shiftLeft_eq]
  exact Nat.mul_pos (by decide) (Nat.two_pow_pos _)

theorem shiftLeft_mul (n shift den : Nat) : (n <<< shift) * den = n * (2 ^ shift * den) := by
  rw [Nat.shiftLeft_eq, Nat.mul_assoc]

theorem two_pow_succ_mul (n den : Nat) : 2 ^ (n + 1) * den = 2 * (2 ^ n * den) := by
  rw [Nat.pow_succ, Nat.mul_comm (2 ^ n), Nat.mul_assoc]

/-- A value is rounded to a finite double if it is nearer to the largest of them
than to the power of two above it. -/
theorem nearestRank_lt_infinityRank_iff {num den : Nat} (positive : 0 < den) :
    nearestRank num den < infinityRank ↔ num < overflowUnits * den := by
  obtain ⟨shift, shifted⟩ : ∃ shift, shift = (num / den).log2 - 52 := ⟨_, rfl⟩
  obtain ⟨upper, lower⟩ := nearestEven_shiftLeft_bounds shifted
  obtain ⟨below, above⟩ := shift_bounds (num / den)
  rw [← shifted, Nat.div_lt_iff_lt_mul positive, Nat.pow_add, Nat.mul_assoc] at below
  rw [← shifted, Nat.le_div_iff_mul_le positive, Nat.pow_add, Nat.mul_assoc] at above
  have rank : nearestRank num den < infinityRank ↔
      shift * 0x10000000000000 + nearestEven num (den <<< shift) < 0x7FF0000000000000 := by
    rw [shifted]
    exact Iff.rfl
  rw [rank, overflowUnits, shiftLeft_mul]
  have spacings : ∀ {few many : Nat}, few ≤ many → 2 ^ few * den ≤ 2 ^ many * den :=
    fun le => Nat.mul_le_mul_right den (Nat.pow_le_pow_right (by decide) le)
  have double : 2 ^ 2045 * den = 2 * (2 ^ 2044 * den) := two_pow_succ_mul 2044 den
  rcases Nat.lt_trichotomy shift 2045 with small | rfl | large
  · -- the power of two above the significand is a finite double
    have room : 2 ^ shift * den ≤ 2 ^ 2044 * den := spacings (by omega)
    generalize 2 ^ 2044 * den = spacing at room ⊢
    omega
  · -- the significand overflows if it is rounded to the next power of two
    have spaced : 0 < den <<< 2045 := by
      rw [Nat.shiftLeft_eq]
      exact Nat.mul_pos positive (Nat.two_pow_pos _)
    have round : nearestEven num (den <<< 2045) < 2 ^ 53 ↔
        2 * num + den <<< 2045 < 2 * 2 ^ 53 * den <<< 2045 :=
      nearestEven_lt_iff spaced (by decide)
    rw [Nat.shiftLeft_eq den, Nat.mul_comm den, double] at round
    rw [Nat.shiftLeft_eq, Nat.mul_comm den, double] at upper lower ⊢
    generalize 2 ^ 2044 * den = spacing at round upper lower ⊢
    omega
  · have room : 2 ^ 2046 * den ≤ 2 ^ shift * den := spacings large
    have twice : 2 ^ 2046 * den = 2 * (2 ^ 2045 * den) := two_pow_succ_mul 2045 den
    have spaced := above (by omega)
    have significand := lower (by omega)
    rw [twice, double] at room
    generalize 2 ^ 2044 * den = spacing at room ⊢
    omega

/-! ## Exact values -/

/-- The absolute value of a finite double in units. -/
def magnitude : Binary64 → Nat
  | finite _ rank => units rank
  | _ => 0

theorem unitsPerOne_pos : 0 < unitsPerOne := by
  rw [unitsPerOne_eq]
  exact Nat.two_pow_pos _

theorem isFinite_ofRank {negative : Bool} {rank : Nat} :
    (ofRank negative rank).isFinite = true ↔ rank < infinityRank := by
  unfold ofRank
  split <;> simp [isFinite, *]

theorem isFinite_ofUnits_iff {negative : Bool} {num den : Nat} (positive : 0 < den) :
    (ofUnits negative num den).isFinite = true ↔ num < overflowUnits * den :=
  isFinite_ofRank.trans (nearestRank_lt_infinityRank_iff positive)

variable {x y : Binary64}

theorem exists_finite (finite : x.isFinite = true) :
    ∃ negative rank, x = .finite negative rank := by
  cases x with
  | nan => cases finite
  | infinite => cases finite
  | finite negative rank => exact ⟨negative, rank, rfl⟩

theorem place_zero : (0 : Binary64).place = some 0 := by decide +kernel

/-- The numbers above zero are infinity and the finite ones of a rank above its. -/
theorem zero_lt_iff :
    0 < x ↔ x = infinite false ∨
      ∃ rank : Fin infinityRank, rank.val ≠ 0 ∧ x = finite false rank := by
  show (0 : Binary64).lt x = true ↔ _
  unfold lt
  rw [place_zero]
  cases x with
  | nan => simp [place]
  | infinite negative => cases negative <;> simp [place, infinityRank]
  | finite negative rank =>
      cases negative
      · simp [place, Nat.pos_iff_ne_zero]
      · simp [place]

theorem le_iff : x ≤ y ↔ ∃ a ∈ x.place, ∃ b ∈ y.place, a ≤ b := by
  show x.le y = true ↔ _
  unfold le
  cases x.place <;> cases y.place <;> simp

theorem le_of_lt (less : x < y) : x ≤ y := by
  change x.lt y = true at less
  unfold lt at less
  rw [le_iff]
  cases placed : x.place <;> cases placed' : y.place <;> simp [placed, placed'] at less ⊢
  exact Int.le_of_lt less

theorem le_trans {z : Binary64} (first : x ≤ y) (second : y ≤ z) : x ≤ z := by
  obtain ⟨a, placed, b, placed', below⟩ := le_iff.mp first
  obtain ⟨b', again, c, placed'', below'⟩ := le_iff.mp second
  obtain rfl := Option.mem_unique placed' again
  exact le_iff.mpr ⟨a, placed, c, placed'', Int.le_trans below below'⟩

theorem isFinite_iff_place :
    x.isFinite = true ↔ ∃ p ∈ x.place, -(infinityRank : Int) < p ∧ p < infinityRank := by
  cases x with
  | nan => simp [isFinite, place]
  | infinite negative => cases negative <;> simp [isFinite, place]
  | finite negative rank =>
      have bound := rank.isLt
      refine iff_of_true rfl ⟨_, rfl, ?_, ?_⟩ <;> split <;> omega

/-- What lies between finite numbers is finite. -/
theorem isFinite_of_between {low high : Binary64} (finite : low.isFinite = true)
    (finite' : high.isFinite = true) (below : low ≤ x) (above : x ≤ high) : x.isFinite = true := by
  obtain ⟨a, placed, b, placed', below⟩ := le_iff.mp below
  obtain ⟨b', again, c, placed'', above⟩ := le_iff.mp above
  obtain rfl := Option.mem_unique placed' again
  obtain ⟨a', least, bound, -⟩ := isFinite_iff_place.mp finite
  obtain ⟨c', greatest, -, bound'⟩ := isFinite_iff_place.mp finite'
  obtain rfl := Option.mem_unique placed least
  obtain rfl := Option.mem_unique placed'' greatest
  exact isFinite_iff_place.mpr ⟨b, placed', by omega, by omega⟩

theorem larger_eq (x y : Binary64) : x.larger y = x ∨ x.larger y = y := by
  unfold larger
  split
  · exact .inr rfl
  · exact .inl rfl
  · split
    · exact .inr rfl
    · exact .inl rfl

theorem isFinitePositive_iff :
    x.isFinitePositive = true ↔ x.isFinite = true ∧ 0 < x := by
  simp [isFinitePositive]

/-- What is neither below zero nor above it has no units. -/
theorem magnitude_of_not_pos (above : 0 ≤ x) (zero : ¬0 < x) : x.magnitude = 0 := by
  obtain ⟨a, placed, b, placed', below⟩ := le_iff.mp above
  obtain rfl := Option.mem_unique place_zero placed
  have least : ¬0 < b := by
    intro less
    refine zero (show (0 : Binary64).lt x = true from ?_)
    unfold lt
    rw [place_zero, show x.place = some b from placed']
    exact decide_eq_true less
  cases x with
  | nan => rfl
  | infinite negative => rfl
  | finite negative rank =>
      have none : rank.val = 0 := by
        have place := Option.some.inj placed'
        split at place <;> omega
      rw [magnitude, none]
      rfl

/-- A number that is not below zero, a negative zero included. -/
theorem signedUnits_of_zero_le {negative : Bool} {rank : Fin infinityRank}
    (above : 0 ≤ finite negative rank) : signedUnits negative rank = units rank := by
  cases negative with
  | false => rfl
  | true =>
      have order : (0 : Binary64).le (finite true rank) = true := above
      unfold le at order
      rw [place_zero] at order
      have least : (0 : Int) ≤ -(rank.val : Int) := of_decide_eq_true order
      have none : rank.val = 0 := by omega
      rw [signedUnits, none]
      rfl

/-- A sum is finite if its exact value does not overflow. -/
theorem isFinite_add_iff (finite : x.isFinite = true) (finite' : y.isFinite = true)
    (above : 0 ≤ x) (above' : 0 ≤ y) :
    (x + y).isFinite = true ↔ x.magnitude + y.magnitude < overflowUnits := by
  obtain ⟨negative, rank, rfl⟩ := exists_finite finite
  obtain ⟨negative', rank', rfl⟩ := exists_finite finite'
  show (Binary64.add _ _).isFinite = true ↔ units rank + units rank' < overflowUnits
  unfold Binary64.add
  dsimp only
  rw [signedUnits_of_zero_le above, signedUnits_of_zero_le above']
  split
  · rename_i zero
    have none : units rank + units rank' = 0 := by omega
    rw [none]
    exact ⟨fun _ => overflowUnits_pos, fun _ => isFinite_ofRank.mpr (by decide)⟩
  · have sum : ((units rank : Int) + units rank').natAbs = units rank + units rank' := by omega
    rw [sum, isFinite_ofUnits_iff Nat.one_pos, Nat.mul_one]

/-- A product is finite if its exact value does not overflow. -/
theorem isFinite_mul_iff (finite : x.isFinite = true) (finite' : y.isFinite = true) :
    (x * y).isFinite = true ↔ x.magnitude * y.magnitude < overflowUnits * unitsPerOne := by
  obtain ⟨negative, rank, rfl⟩ := exists_finite finite
  obtain ⟨negative', rank', rfl⟩ := exists_finite finite'
  show (Binary64.mul _ _).isFinite = true ↔ _
  unfold Binary64.mul
  exact isFinite_ofUnits_iff unitsPerOne_pos

/-- A quotient is finite if its exact value does not overflow. -/
theorem isFinite_div_iff (finite : x.isFinite = true) (finite' : y.isFinite = true)
    (some_ : y.magnitude ≠ 0) :
    (x / y).isFinite = true ↔ x.magnitude * unitsPerOne < overflowUnits * y.magnitude := by
  obtain ⟨negative, rank, rfl⟩ := exists_finite finite
  obtain ⟨negative', rank', rfl⟩ := exists_finite finite'
  have positive : rank'.val ≠ 0 := fun zero => some_ (by rw [magnitude, zero]; rfl)
  show (Binary64.div _ _).isFinite = true ↔ _
  unfold Binary64.div
  dsimp only
  rw [if_neg positive]
  exact isFinite_ofUnits_iff (Nat.pos_of_ne_zero some_)

/-- Adding zero makes no infinity of a number, and no number of an infinity. -/
theorem isFinite_add_zero (x : Binary64) : (x + 0).isFinite = x.isFinite := by
  obtain ⟨zero, equal⟩ : ∃ rank, (0 : Binary64) = .finite false rank := ⟨_, rfl⟩
  have none : units zero = 0 := by
    have magnitude : (0 : Binary64).magnitude = 0 := by decide +kernel
    rwa [equal] at magnitude
  rw [equal]
  cases x with
  | nan => rfl
  | infinite negative => rfl
  | finite negative rank =>
      have sum : signedUnits negative rank + signedUnits false zero =
          signedUnits negative rank := by
        rw [show signedUnits false zero = (units zero : Int) from rfl, none]
        exact Int.add_zero _
      have within : units rank * 1 < overflowUnits * 1 := by
        rw [← nearestRank_lt_infinityRank_iff Nat.one_pos, nearestRank_units_mul _ Nat.one_pos]
        exact rank.isLt
      show (Binary64.add _ _).isFinite = true
      unfold Binary64.add
      dsimp only
      rw [sum]
      split
      · exact isFinite_ofRank.mpr (by decide)
      · have value : (signedUnits negative rank).natAbs = units rank := by
          unfold signedUnits
          split <;> omega
        rw [value, isFinite_ofUnits_iff Nat.one_pos]
        omega

end Montage.Binary64
