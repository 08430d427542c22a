import Montage.Decimal.Layout
import Montage.Decimal.Reading
import Mathlib.Algebra.Group.Nat.Defs

/-!
# Digits of numbers

The digits of a natural number are read back as that number, and the first of
them is a zero only if there is no other one (`isWhole_toDigits`). A point can
be put anywhere between them, with zeros in front where digits are missing
(`exists_withPoint`).
-/

namespace Montage

/-! ## Digits -/

theorem toDigits_isDigit {n : Nat} {c : Char} (member : c ∈ Nat.toDigits 10 n) :
    c.isDigit = true :=
  Nat.isDigit_of_mem_toDigits (by decide) (by decide) member

theorem toDigits_injective {m n : Nat} (equal : Nat.toDigits 10 m = Nat.toDigits 10 n) :
    m = n := by
  have values := congrArg (Nat.ofDigitChars 10 · 0) equal
  simpa using values

/-- The characters of a printed number. -/
@[simp] theorem toList_toString (n : Nat) : (toString n).toList = Nat.toDigits 10 n := by
  rw [Nat.toString_eq_repr, Nat.toList_repr]

namespace Decimal

theorem digitsValue_toDigits (n : Nat) : digitsValue (Nat.toDigits 10 n) = n := by
  show Nat.ofDigitChars 10 (Nat.toDigits 10 n) 0 = n
  exact Nat.ofDigitChars_ten_toDigits

/-- Zeros at the front count for nothing. -/
theorem digitsValue_zeros_append (count : Nat) (cs : List Char) :
    digitsValue (List.replicate count '0' ++ cs) = digitsValue cs := by
  show Nat.ofDigitChars 10 (List.replicate count '0' ++ cs) 0 = Nat.ofDigitChars 10 cs 0
  rw [Nat.ofDigitChars_append, Nat.ofDigitChars_replicate_zero, Nat.mul_zero]

/-- Each zero at the end counts for a power of ten. -/
theorem digitsValue_append_zeros (cs : List Char) (count : Nat) :
    digitsValue (cs ++ List.replicate count '0') = 10 ^ count * digitsValue cs := by
  show Nat.ofDigitChars 10 (cs ++ List.replicate count '0') 0 =
    10 ^ count * Nat.ofDigitChars 10 cs 0
  rw [Nat.ofDigitChars_append, Nat.ofDigitChars_replicate_zero]

/-- Characters that are all digits. -/
def AllDigits (cs : List Char) : Prop := ∀ c ∈ cs, c.isDigit = true

section

variable {cs more : List Char}

theorem allDigits_toDigits (n : Nat) : AllDigits (Nat.toDigits 10 n) := fun _ => toDigits_isDigit

theorem allDigits_zeros (count : Nat) : AllDigits (List.replicate count '0') := by
  intro c member
  rw [(List.mem_replicate.mp member).2]
  decide

theorem AllDigits.append (digits : AllDigits cs) (digits' : AllDigits more) :
    AllDigits (cs ++ more) := by
  intro c member
  rcases List.mem_append.mp member with here | there
  · exact digits c here
  · exact digits' c there

/-- The digits of a text end where something else begins. -/
theorem spanDigits_append (digits : AllDigits cs) (ends : ∀ c ∈ more.head?, c.isDigit = false) :
    spanDigits (cs ++ more) = (cs, more) := by
  unfold spanDigits
  rw [List.takeWhile_append_of_pos digits, List.dropWhile_append_of_pos digits]
  cases more with
  | nil => simp
  | cons c rest => simp [ends c rfl]

theorem spanDigits_eq (digits : AllDigits cs) : spanDigits cs = (cs, []) := by
  have span : spanDigits (cs ++ []) = (cs, []) := spanDigits_append digits (by simp)
  rwa [List.append_nil] at span

theorem digitsOnly?_eq_some_iff {n : Nat} :
    digitsOnly? cs = some n ↔ cs ≠ [] ∧ AllDigits cs ∧ digitsValue cs = n := by
  unfold digitsOnly? AllDigits
  rw [← List.all_eq_true]
  cases cs <;> simp

/-! ## Numerals -/

/-- A text of decimal digits that stands for a whole number, with any number of
zeros and perhaps a plus sign at the front. -/
def IsNumeral (text : String) (n : Nat) : Prop :=
  ∃ digits, digits ≠ [] ∧ AllDigits digits ∧ Nat.ofDigitChars 10 digits 0 = n ∧
    (text.toList = digits ∨ text.toList = '+' :: digits)

theorem isNumeral_toDigits (n : Nat) : IsNumeral (String.ofList (Nat.toDigits 10 n)) n :=
  ⟨_, Nat.toDigits_ne_nil, allDigits_toDigits n, digitsValue_toDigits n, .inl String.toList_ofList⟩

/-- The characters of a numeral. -/
theorem IsNumeral.chars {text : String} {n : Nat} (numeral : IsNumeral text n) :
    ∀ c ∈ text.toList, c = '+' ∨ c.isDigit = true := by
  obtain ⟨digits, -, all, -, plain | signed⟩ := numeral
  · rw [plain]
    exact fun c member => .inr (all c member)
  · rw [signed, List.forall_mem_cons]
    exact ⟨.inl rfl, fun c member => .inr (all c member)⟩

/-- A text without a plus sign at the front. -/
def withoutPlus : List Char → List Char
  | '+' :: rest => rest
  | cs => cs

theorem withoutPlus_of_allDigits (digits : AllDigits cs) : withoutPlus cs = cs := by
  unfold withoutPlus
  split
  · exact absurd (digits '+' List.mem_cons_self) (by decide)
  · rfl

/-- A numeral is what is read as digits after its sign. -/
theorem isNumeral_iff {text : String} {n : Nat} :
    IsNumeral text n ↔ digitsOnly? (withoutPlus text.toList) = some n := by
  rw [digitsOnly?_eq_some_iff]
  constructor
  · rintro ⟨digits, some_, all, value, plain | signed⟩
    · rw [plain, withoutPlus_of_allDigits all]
      exact ⟨some_, all, value⟩
    · rw [signed]
      exact ⟨some_, all, value⟩
  · rintro ⟨some_, all, value⟩
    refine ⟨_, some_, all, value, ?_⟩
    unfold withoutPlus
    split
    · rename_i rest chars
      exact .inr chars
    · exact .inl rfl

theorem natUpTo?_eq (bound : Nat) (text : String) :
    natUpTo? bound text =
      (digitsOnly? (withoutPlus text.toList)).filter fun n => decide (n ≤ bound) := by
  unfold natUpTo?
  dsimp only
  split
  · rename_i n read
    have same : digitsOnly? (withoutPlus text.toList) = some n := read
    simp [same, Option.filter]
  · rename_i read
    have same : digitsOnly? (withoutPlus text.toList) = none := read
    simp [same]

/-- Numerals of numbers within the bound are read. -/
theorem IsNumeral.natUpTo? {text : String} {n : Nat} (numeral : IsNumeral text n) (bound : Nat) :
    natUpTo? bound text = if n ≤ bound then some n else none := by
  rw [natUpTo?_eq, isNumeral_iff.mp numeral]
  simp [Option.filter]

/-- Nothing else is read. -/
theorem isNumeral_of_natUpTo? {bound n : Nat} {text : String}
    (read : natUpTo? bound text = some n) : IsNumeral text n ∧ n ≤ bound := by
  rw [natUpTo?_eq, Option.filter_eq_some_iff] at read
  exact ⟨isNumeral_iff.mpr read.1, of_decide_eq_true read.2⟩

/-- A numeral is read as a word if its number has at most 32 bits. -/
theorem IsNumeral.word? {text : String} {n : Nat} (numeral : IsNumeral text n) :
    word? text = if n < UInt32.size then some n.toUInt32 else none := by
  have bound : n ≤ UInt32.size - 1 ↔ n < UInt32.size := Nat.le_sub_one_iff_lt (by decide)
  unfold Decimal.word?
  rw [numeral.natUpTo?]
  by_cases within : n < UInt32.size
  · rw [if_pos within, if_pos (bound.mpr within)]
    rfl
  · rw [if_neg within, if_neg (mt bound.mp within)]
    rfl

/-- A word is read from its numerals and from nothing else. -/
theorem word?_eq_some_iff {text : String} {word : UInt32} :
    word? text = some word ↔ IsNumeral text word.toNat := by
  constructor
  · intro read
    unfold word? at read
    obtain ⟨n, bounded, rfl⟩ := Option.map_eq_some_iff.mp read
    obtain ⟨numeral, within⟩ := isNumeral_of_natUpTo? bounded
    have small : n < UInt32.size := (Nat.le_sub_one_iff_lt (by decide)).mp within
    rwa [UInt32.toNat_ofNat_of_lt' small]
  · intro numeral
    rw [numeral.word?, if_pos word.toNat_lt]
    simp

/-- A printed number is read back up to the bound. -/
theorem natUpTo?_toDigits (bound n : Nat) :
    natUpTo? bound (String.ofList (Nat.toDigits 10 n)) = if n ≤ bound then some n else none :=
  (isNumeral_toDigits n).natUpTo? bound

/-! ## Whole parts -/

/-- One or more digits, of which the first is no zero unless it is alone. -/
structure IsWhole (cs : List Char) : Prop where
  digits : AllDigits cs
  nonempty : cs ≠ []
  leading : ∀ rest, cs = '0' :: rest → rest = []

/-- The first digit of a number is a zero only if the number is zero. -/
theorem toDigits_head {n : Nat} {rest : List Char} (equal : Nat.toDigits 10 n = '0' :: rest) :
    n = 0 := by
  induction n using Nat.strongRecOn generalizing rest with
  | ind n ih =>
      rw [Nat.toDigits_eq_if (by decide)] at equal
      split at equal
      · have zero := (List.cons.inj equal).1
        rwa [Nat.digitChar_eq_zero] at zero
      · rename_i large
        obtain ⟨c, front, split⟩ := List.exists_cons_of_ne_nil
          (Nat.toDigits_ne_nil (n := n / 10) (b := 10))
        rw [split, List.cons_append] at equal
        obtain rfl := (List.cons.inj equal).1
        have small := ih (n / 10) (by omega) split
        omega

theorem isWhole_toDigits (n : Nat) : IsWhole (Nat.toDigits 10 n) := by
  refine ⟨allDigits_toDigits n, Nat.toDigits_ne_nil, fun rest equal => ?_⟩
  obtain rfl := toDigits_head equal
  exact ((List.cons.inj equal).2).symm

/-- Zeros may follow a number that is not zero. -/
theorem isWhole_append_zeros {n : Nat} (positive : n ≠ 0) (count : Nat) :
    IsWhole (Nat.toDigits 10 n ++ List.replicate count '0') := by
  obtain ⟨c, rest, split⟩ := List.exists_cons_of_ne_nil (Nat.toDigits_ne_nil (n := n) (b := 10))
  refine ⟨(allDigits_toDigits n).append (allDigits_zeros count), ?_, fun more equal => ?_⟩
  · rw [split]
    exact List.cons_ne_nil c _
  · rw [split, List.cons_append] at equal
    obtain rfl := (List.cons.inj equal).1
    exact absurd (toDigits_head split) positive

theorem IsWhole.take (whole : IsWhole cs) {count : Nat} (some_ : 0 < count) :
    IsWhole (cs.take count) := by
  obtain ⟨c, rest, rfl⟩ := List.exists_cons_of_ne_nil whole.nonempty
  cases count with
  | zero => cases some_
  | succ count =>
      refine ⟨fun c member => whole.digits c (List.mem_of_mem_take member), by simp, ?_⟩
      intro more equal
      obtain ⟨rfl, rfl⟩ := List.cons.inj equal
      rw [whole.leading rest rfl, List.take_nil]

/-! ## Points -/

/-- A text of some digits with a point in front of the last ones. -/
structure IsPointed (text : String) (n places : Nat) (front fraction : List Char) : Prop where
  split : text.toList = front ++ '.' :: fraction
  whole : IsWhole front
  digits : AllDigits fraction
  length : fraction.length = places
  value : digitsValue (front ++ fraction) = n

/-- The digits of a number with a point in front of the last ones. -/
theorem exists_withPoint (n places : Nat) :
    ∃ front fraction, IsPointed (withPoint (toString n) places) n places front fraction := by
  have length : (toString n).length = (Nat.toDigits 10 n).length := by
    rw [← String.length_toList, toList_toString]
  have positive : 0 < (Nat.toDigits 10 n).length := List.length_pos_iff.mpr Nat.toDigits_ne_nil
  -- the padded digits and the length of the whole part
  obtain ⟨padded, padding⟩ : ∃ padded, padded =
    List.replicate (places + 1 - (Nat.toDigits 10 n).length) '0' ++ Nat.toDigits 10 n := ⟨_, rfl⟩
  have long : padded.length = max (places + 1) (Nat.toDigits 10 n).length := by
    rw [padding, List.length_append, List.length_replicate]
    omega
  have digits : AllDigits padded := by
    rw [padding]
    exact (allDigits_zeros _).append (allDigits_toDigits n)
  refine ⟨padded.take (padded.length - places), padded.drop (padded.length - places), ?_, ?_, ?_,
    ?_, ?_⟩
  · have chars : (zeros (places + 1 - (toString n).length) ++ toString n).toList = padded := by
      rw [padding, length, String.toList_append, toList_toString, zeros, String.toList_ofList]
    unfold withPoint
    dsimp only
    rw [chars]
    simp
  · rcases Nat.lt_or_ge places (Nat.toDigits 10 n).length with few | many
    · rw [show places + 1 - (Nat.toDigits 10 n).length = 0 by omega] at padding
      obtain rfl : padded = Nat.toDigits 10 n := padding
      exact (isWhole_toDigits n).take (by omega)
    · -- the whole part is a zero
      obtain ⟨more, missing⟩ : ∃ more, places + 1 - (Nat.toDigits 10 n).length = more + 1 :=
        ⟨places - (Nat.toDigits 10 n).length, by omega⟩
      have one : padded.length - places = 1 := by omega
      rw [one, padding, missing, List.replicate_succ, List.cons_append, List.take_succ_cons,
        List.take_zero]
      exact ⟨fun c member => by rw [List.mem_singleton.mp member]; decide, by simp,
        fun rest equal => (List.cons.inj equal).2.symm⟩
  · exact fun c member => digits c (List.mem_of_mem_drop member)
  · rw [List.length_drop]
    omega
  · rw [List.take_append_drop, padding, digitsValue_zeros_append, digitsValue_toDigits]

end

end Decimal

end Montage
