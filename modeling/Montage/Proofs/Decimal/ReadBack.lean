import Montage.Proofs.Decimal.Digits

/-!
# Reading back printed numbers

A whole number of units is rounded to its own rank (`nearestRank_units_mul`),
so the finest grid of the search reads back and every shortest decimal stands
for its double (`decimalRank_shortest`). Read as text, its plain layout is that
double again (`ofText?_plainText`).
-/

namespace Montage

namespace Binary64

variable {rank : Nat}

/-! ## Exact values -/

theorem nearestEven_mul (n : Nat) {den : Nat} (positive : 0 < den) :
    nearestEven (n * den) den = n := by
  unfold nearestEven
  simp [Nat.mul_div_cancel n positive, positive]

/-- The spacing of a rank, as a power of two. -/
def shiftOf (rank : Nat) : Nat := rank / ranksPerSpacing - 1

/-- The significand of a rank. -/
def significandOf (rank : Nat) : Nat := rank - shiftOf rank * ranksPerSpacing

theorem units_eq (rank : Nat) : units rank = significandOf rank * 2 ^ shiftOf rank :=
  Nat.shiftLeft_eq _ _

theorem shift_add_significand (rank : Nat) :
    shiftOf rank * ranksPerSpacing + significandOf rank = rank := by
  have bound : shiftOf rank * ranksPerSpacing ≤ rank / ranksPerSpacing * ranksPerSpacing :=
    Nat.mul_le_mul_right _ (Nat.sub_le _ _)
  have whole := Nat.div_mul_le_self rank ranksPerSpacing
  unfold significandOf
  omega

/-- A significand has 53 bits, and all of them above the least spacing. -/
theorem significandOf_bounds (rank : Nat) :
    significandOf rank < 2 ^ 53 ∧ (shiftOf rank ≠ 0 → 2 ^ 52 ≤ significandOf rank) := by
  unfold significandOf shiftOf ranksPerSpacing
  omega

theorem significandOf_ne_zero (positive : rank ≠ 0) : significandOf rank ≠ 0 := by
  have split := shift_add_significand rank
  rcases Nat.eq_zero_or_pos (shiftOf rank) with least | above
  · rw [least] at split
    omega
  · have large := (significandOf_bounds rank).2 (Nat.ne_of_gt above)
    omega

theorem units_ne_zero (positive : rank ≠ 0) : units rank ≠ 0 := by
  rw [units_eq]
  exact Nat.mul_ne_zero (significandOf_ne_zero positive) (Nat.ne_of_gt (Nat.two_pow_pos _))

/-- The spacing of a rank can be told from its units. -/
theorem log2_units (rank : Nat) : (units rank).log2 - 52 = shiftOf rank := by
  obtain ⟨upper, lower⟩ := significandOf_bounds rank
  rcases Nat.eq_zero_or_pos rank with rfl | positive
  · rfl
  have some_ := units_ne_zero (Nat.ne_of_gt positive)
  have top : (units rank).log2 < 53 + shiftOf rank := by
    rw [Nat.log2_lt some_, units_eq, Nat.pow_add]
    exact Nat.mul_lt_mul_of_pos_right upper (Nat.two_pow_pos _)
  rcases Nat.eq_zero_or_pos (shiftOf rank) with least | above
  · omega
  · have bottom : 52 + shiftOf rank ≤ (units rank).log2 := by
      rw [Nat.le_log2 some_, units_eq, Nat.pow_add]
      exact Nat.mul_le_mul_right _ (lower (Nat.ne_of_gt above))
    omega

/-- A whole number of units is rounded to its own rank. -/
theorem nearestRank_units_mul (rank : Nat) {den : Nat} (positive : 0 < den) :
    nearestRank (units rank * den) den = rank := by
  have spread : units rank * den = significandOf rank * (den <<< shiftOf rank) := by
    rw [units_eq, Nat.shiftLeft_eq, Nat.mul_assoc, Nat.mul_comm (2 ^ _)]
  have wide : 0 < den <<< shiftOf rank := by
    rw [Nat.shiftLeft_eq]
    exact Nat.mul_pos positive (Nat.two_pow_pos _)
  unfold nearestRank
  rw [Nat.mul_div_cancel _ positive, log2_units]
  dsimp only
  rw [spread, nearestEven_mul _ wide, shift_add_significand]

theorem one_shiftLeft_eq (n : Nat) : 1 <<< n = 2 ^ n := Nat.one_shiftLeft n

theorem unitsPerOne_eq : unitsPerOne = 2 ^ 1074 := one_shiftLeft_eq 1074

end Binary64

namespace Decimal

open Binary64 (decimalRank unitsPerOne units nearestRank_units_mul units_ne_zero)

variable {rank : Nat} {tie : TieRule} {d : Decimal}

/-! ## Shortest decimals -/

/-- A decimal that reads back as the double of a rank. -/
def StandsFor (d : Decimal) (rank : Nat) : Prop := decimalRank d.digits d.exponent = rank

theorem StandsFor.digits_ne_zero (stands : d.StandsFor rank) (positive : rank ≠ 0) :
    d.digits ≠ 0 := by
  intro zero
  unfold StandsFor at stands
  rw [zero] at stands
  exact positive stands.symm

/-- A decimal with as many places as there are halvings in a unit is exact. -/
theorem standsFor_units_mul (positive : rank ≠ 0) {places : Nat}
    (halvings : unitsPerOne = 2 ^ places) (some_ : places ≠ 0) (few : places ≤ 1077) :
    StandsFor ⟨units rank * Nat.pow 5 places, -(places : Int)⟩ rank := by
  obtain ⟨n, rfl⟩ := Nat.exists_eq_succ_of_ne_zero some_
  have above : units rank * 5 ^ (n + 1) ≠ 0 :=
    Nat.mul_ne_zero (units_ne_zero positive) (Nat.ne_of_gt (Nat.pow_pos (by decide : 0 < 5)))
  -- `5 ^ n` has at least `2 * n` bits, so the early exit is not taken
  have long : 2 * (n + 1) ≤ (units rank * 5 ^ (n + 1)).log2 := by
    rw [Nat.le_log2 above, Nat.pow_mul]
    calc (2 ^ 2) ^ (n + 1) ≤ 5 ^ (n + 1) := Nat.pow_le_pow_left (by decide) _
      _ ≤ units rank * 5 ^ (n + 1) :=
        Nat.le_mul_of_pos_left _ (Nat.pos_of_ne_zero (units_ne_zero positive))
  have exact_ : units rank * 5 ^ (n + 1) * unitsPerOne = units rank * Nat.pow 10 (n + 1) := by
    rw [halvings, Nat.mul_assoc, ← Nat.mul_pow]
    rfl
  have ten : 0 < Nat.pow 10 (n + 1) := Nat.pow_pos (by decide : 0 < 10)
  show decimalRank (units rank * 5 ^ (n + 1)) (Int.negSucc n) = rank
  unfold decimalRank
  rw [if_neg above]
  dsimp only
  rw [if_neg (by omega), exact_, nearestRank_units_mul rank ten]

/-- A point of a grid is only taken if it reads back. -/
theorem standsFor_gridPoint {exponent : Int} {digits : Nat}
    (found : gridPoint? tie rank exponent = some digits) : StandsFor ⟨digits, exponent⟩ rank := by
  unfold gridPoint? at found
  dsimp only at found
  split at found
  · cases found
  · rename_i lower _
    rw [← Option.some.inj found]
    exact eq_of_beq lower
  · rename_i _ upper
    rw [← Option.some.inj found]
    exact eq_of_beq upper
  · rename_i lower upper
    have lower := eq_of_beq lower
    have upper := eq_of_beq upper
    split at found
    · rw [← Option.some.inj found]
      exact lower
    · split at found
      · rw [← Option.some.inj found]
        exact upper
      · split at found
        · rw [← Option.some.inj found]
          exact upper
        · -- the even one of the two
          rw [← Option.some.inj found]
          rcases Nat.mod_two_eq_zero_or_one
            ((gridFraction rank exponent).1 / (gridFraction rank exponent).2) with even | odd
          · rw [even]
            exact lower
          · rw [odd]
            exact upper

theorem standsFor_searchFrom (positive : rank ≠ 0) (k : Nat) :
    (searchFrom tie rank k).StandsFor rank := by
  induction k with
  | zero => exact standsFor_units_mul positive Binary64.unitsPerOne_eq (by decide) (by decide)
  | succ k ih =>
      unfold searchFrom
      split
      · rename_i digits found
        exact standsFor_gridPoint found
      · exact ih

/-- The shortest decimal reads back. -/
theorem standsFor_shortest (tie : TieRule) (positive : rank ≠ 0) :
    (shortest tie rank).StandsFor rank := standsFor_searchFrom positive _

/-! ## The plain layout -/

/-- The plain layout of a decimal: its digits, and those after the point. -/
structure IsPlain (d : Decimal) (front fraction : List Char) : Prop where
  split : d.plainText.toList = front ++ if fraction = [] then [] else '.' :: fraction
  whole : IsWhole front
  digits : AllDigits fraction
  places : fraction.length = (-d.exponent).toNat
  value : digitsValue (front ++ fraction) = 10 ^ d.exponent.toNat * d.digits

theorem exists_plainText (some_ : d.digits ≠ 0) : ∃ front fraction, d.IsPlain front fraction := by
  obtain ⟨digits, exponent⟩ := d
  cases exponent with
  | ofNat n =>
      refine ⟨Nat.toDigits 10 digits ++ List.replicate n '0', [], ?_, isWhole_append_zeros some_ n,
        fun c never => (nomatch never), by simp, ?_⟩
      · simp [plainText, zeros]
      · rw [List.append_nil, digitsValue_append_zeros, digitsValue_toDigits]
        rfl
  | negSucc n =>
      obtain ⟨front, fraction, pointed⟩ := exists_withPoint digits (n + 1)
      have more : fraction ≠ [] := by
        rintro rfl
        cases pointed.length
      refine ⟨front, fraction, ?_, pointed.whole, pointed.digits, pointed.length, ?_⟩
      · rw [if_neg more]
        exact pointed.split
      · rw [pointed.value]
        exact (Nat.one_mul digits).symm

/-- The plain layout reads back. -/
theorem unsigned?_plainText (some_ : d.digits ≠ 0) :
    unsigned? d.plainText.toList =
      some (10 ^ d.exponent.toNat * d.digits, min d.exponent 0) := by
  obtain ⟨front, fraction, plain⟩ := exists_plainText some_
  have noDigits : front.isEmpty = false := List.isEmpty_eq_false_iff.mpr plain.whole.nonempty
  have places := plain.places
  unfold unsigned?
  rw [plain.split]
  by_cases none : fraction = []
  · have value := plain.value
    rw [if_pos none, spanDigits_append plain.whole.digits (by simp)]
    subst none
    simp [noDigits, exponentPart?] at value places ⊢
    omega
  · rw [if_neg none, spanDigits_append plain.whole.digits (by simp)]
    simp [spanDigits_eq plain.digits, noDigits, exponentPart?, plain.value]
    omega

end Decimal

namespace Binary64

open Decimal (StandsFor)

variable {rank : Nat} {d : Decimal}

theorem decimalRank_ofNat {digits : Nat} (some_ : digits ≠ 0) (n : Nat) :
    decimalRank digits (.ofNat n) =
      if n ≥ 310 then infinityRank else nearestRank (digits * 10 ^ n * unitsPerOne) 1 := by
  unfold decimalRank
  rw [if_neg some_]
  rfl

/-- Zeros may be written into the digits. -/
theorem decimalRank_scaled {digits n : Nat} (some_ : digits ≠ 0)
    (stands : decimalRank digits (.ofNat n) = rank) (finite : rank < infinityRank) :
    decimalRank (10 ^ n * digits) (.ofNat 0) = rank := by
  have some_' : 10 ^ n * digits ≠ 0 :=
    Nat.mul_ne_zero (Nat.ne_of_gt (Nat.pow_pos (by decide))) some_
  rw [decimalRank_ofNat some_] at stands
  split at stands
  · omega
  · rw [decimalRank_ofNat some_', if_neg (by decide), Nat.pow_zero, Nat.mul_one,
      Nat.mul_comm (10 ^ n), stands]

/-- A decimal that stands for a double is read as that double. -/
theorem ofUnsignedText?_plainText (stands : d.StandsFor rank) (positive : rank ≠ 0)
    (finite : rank < infinityRank) (negative : Bool) :
    ofUnsignedText? negative d.plainText.toList = some (ofRank negative rank) := by
  have some_ := stands.digits_ne_zero positive
  have reads : decimalRank (10 ^ d.exponent.toNat * d.digits) (min d.exponent 0) = rank := by
    obtain ⟨digits, exponent⟩ := d
    cases exponent with
    | ofNat n =>
        rw [show min (Int.ofNat n) 0 = .ofNat 0 from Int.min_eq_right (Int.natCast_nonneg n)]
        exact decimalRank_scaled some_ stands finite
    | negSucc n =>
        rw [show min (Int.negSucc n) 0 = Int.negSucc n by omega]
        show decimalRank (1 * digits) (Int.negSucc n) = rank
        rw [Nat.one_mul]
        exact stands
  unfold ofUnsignedText?
  rw [Decimal.unsigned?_plainText some_]
  dsimp only
  rw [ofDecimal, reads]

/-- A sign, if there is one, and a text that begins with a digit. -/
theorem ofText?_signed {text : String} (digit : ∃ c ∈ text.toList.head?, c.isDigit = true)
    (negative : Bool) :
    ofText? ((if negative then "-" else "") ++ text) = ofUnsignedText? negative text.toList := by
  cases negative with
  | true => simp [ofText?]
  | false =>
      obtain ⟨c, first, digit⟩ := digit
      have plus : c ≠ '+' := by
        rintro rfl
        cases digit
      have minus : c ≠ '-' := by
        rintro rfl
        cases digit
      unfold ofText?
      obtain ⟨rest, split⟩ := List.head?_eq_some_iff.mp first
      simp [split, plus, minus]

theorem ofRank_val (negative : Bool) (rank : Fin infinityRank) :
    ofRank negative rank.val = .finite negative rank := dif_pos rank.isLt

/-- Every finite number is read back from its plain layout. -/
theorem ofText?_plainText {x : Binary64} (finite : x.isFinite = true) :
    ofText? x.plainText = some x := by
  cases x with
  | nan => cases finite
  | infinite negative => cases finite
  | finite negative rank =>
      have layout : plainText (.finite negative rank) = (if negative then "-" else "") ++
          (if rank.val = 0 then "0" else (Decimal.shortest .up rank).plainText) := rfl
      rw [layout]
      by_cases zero : rank.val = 0
      · rw [if_pos zero, ofText?_signed ⟨'0', rfl, rfl⟩, ← ofRank_val, zero]
        rfl
      · rw [if_neg zero]
        have stands := Decimal.standsFor_shortest .up zero
        obtain ⟨front, fraction, plain⟩ :=
          Decimal.exists_plainText (stands.digits_ne_zero zero)
        obtain ⟨c, rest, split⟩ := List.exists_cons_of_ne_nil plain.whole.nonempty
        have digit : c.isDigit = true :=
          plain.whole.digits c (by rw [split]; exact List.mem_cons_self)
        rw [ofText?_signed ⟨c, by rw [plain.split, split]; rfl, digit⟩,
          ofUnsignedText?_plainText stands zero rank.isLt, ofRank_val]

end Binary64

end Montage
