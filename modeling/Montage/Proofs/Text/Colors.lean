import Montage.Proofs.Text.Sizes
import Mathlib.Data.Nat.Digits.Defs

/-!
# Texts of colours

A colour is spelled by six hexadecimal digits of either letter case, with one
mark in front of them or none and blanks around (`Color.ofText_ok_iff`), and by
nothing else. Both of its printed texts are such spellings with all six digits,
so they are read back with any blanks around them (`Color.spelled_exactly`).
-/

namespace Montage.Color

open Text (IsTrimmed isBlank trimChars)

/-! ## Digits -/

/-- The digits to base sixteen in their order. -/
def lowerDigits : List Char := "0123456789abcdef".toList

/-- The digits to base sixteen in their order, the letters as capitals. -/
def upperDigits : List Char := "0123456789ABCDEF".toList

/-- A digit of a value, of either letter case. -/
def IsDigit (c : Char) (value : Nat) : Prop :=
  lowerDigits[value]? = some c ∨ upperDigits[value]? = some c

instance (c : Char) (value : Nat) : Decidable (IsDigit c value) :=
  inferInstanceAs (Decidable (_ ∨ _))

theorem IsDigit.lt {c : Char} {value : Nat} (digit : IsDigit c value) : value < 16 := by
  rcases digit with lower | upper
  · exact (List.getElem?_eq_some_iff.mp lower).1
  · exact (List.getElem?_eq_some_iff.mp upper).1

/-- A digit is an ASCII character. -/
theorem toNat_lt_of_digit? {c : Char} {value : Nat} (read : digit? c = some value) :
    c.toNat < 128 := by
  have below : ∀ d : Char, c ≤ d → c.toNat ≤ d.toNat := fun d le => le
  have bounds : '9'.toNat < 128 ∧ 'f'.toNat < 128 ∧ 'F'.toNat < 128 := by decide
  unfold digit? at read
  simp only [Bool.and_eq_true, decide_eq_true_eq] at read
  split at read
  · rename_i decimal
    simp only [Char.isDigit, Bool.and_eq_true, decide_eq_true_eq] at decimal
    exact (below '9' decimal.2).trans_lt bounds.1
  · split at read
    · rename_i small
      exact (below 'f' small.2).trans_lt bounds.2.1
    · split at read
      · rename_i capital
        exact (below 'F' capital.2).trans_lt bounds.2.2
      · cases read

theorem digit?_eq_some_iff {c : Char} {value : Nat} :
    digit? c = some value ↔ IsDigit c value := by
  constructor
  · intro read
    have all : ∀ code < 128, ∀ value ∈ digit? (Char.ofNat code),
        IsDigit (Char.ofNat code) value := by decide
    have here := all c.toNat (toNat_lt_of_digit? read)
    rw [Char.ofNat_toNat] at here
    exact here value read
  · intro digit
    have all : ∀ value < 16, lowerDigits[value]?.all (digit? · = some value) ∧
        upperDigits[value]?.all (digit? · = some value) := by decide
    obtain ⟨small, capital⟩ := all value digit.lt
    rcases digit with lower | upper
    · rwa [lower, Option.all_some, decide_eq_true_eq] at small
    · rwa [upper, Option.all_some, decide_eq_true_eq] at capital

theorem IsDigit.isBlank {c : Char} {value : Nat} (digit : IsDigit c value) :
    isBlank c = false := by
  have all : (lowerDigits ++ upperDigits).all (!Text.isBlank ·) := by decide
  have listed : c ∈ lowerDigits ++ upperDigits :=
    List.mem_append.mpr (digit.imp List.mem_of_getElem? List.mem_of_getElem?)
  simpa using List.all_eq_true.mp all c listed

/-! ## Values -/

/-- The number that a colour is, with eight bits for each component. -/
def value (color : Color) : Nat :=
  65536 * color.red.toNat + 256 * color.green.toNat + color.blue.toNat

theorem value_lt (color : Color) : color.value < 2 ^ 24 := by
  have red := color.red.toNat_lt
  have green := color.green.toNat_lt
  have blue := color.blue.toNat_lt
  unfold value
  omega

theorem value_injective {color other : Color} (equal : color.value = other.value) :
    color = other := by
  obtain ⟨red, green, blue⟩ := color
  obtain ⟨red', green', blue'⟩ := other
  have bounds := And.intro green.toNat_lt (And.intro green'.toNat_lt
    (And.intro blue.toNat_lt blue'.toNat_lt))
  unfold value at equal
  dsimp only at equal
  rw [mk.injEq, ← UInt8.toNat_inj, ← UInt8.toNat_inj, ← UInt8.toNat_inj]
  omega

/-- Digits of a number to base sixteen, the highest first. -/
def IsNumeral (digits : List Char) (n : Nat) : Prop :=
  ∃ values, List.Forall₂ IsDigit digits values ∧ Nat.ofDigits 16 values.reverse = n

theorem component?_eq_some_iff {high low : Char} {component : UInt8} :
    component? high low = some component ↔
      ∃ h l, IsDigit high h ∧ IsDigit low l ∧ component.toNat = 16 * h + l := by
  unfold component?
  constructor
  · intro read
    split at read
    · rename_i h l highRead lowRead
      have highDigit := digit?_eq_some_iff.mp highRead
      have lowDigit := digit?_eq_some_iff.mp lowRead
      have bounds := And.intro highDigit.lt lowDigit.lt
      obtain rfl := Option.some.inj read
      refine ⟨h, l, highDigit, lowDigit, ?_⟩
      rw [Nat.toUInt8_eq, UInt8.toNat_ofNat']
      omega
    · cases read
  · rintro ⟨h, l, highDigit, lowDigit, number⟩
    rw [digit?_eq_some_iff.mpr highDigit, digit?_eq_some_iff.mpr lowDigit]
    dsimp only
    rw [← number, Nat.toUInt8_eq, UInt8.ofNat_toNat]

/-- The number of six digits, two for each component. -/
theorem isNumeral_six_iff {a b c d e f : Char} {n : Nat} :
    IsNumeral [a, b, c, d, e, f] n ↔ ∃ r r' g g' b' b'', IsDigit a r ∧ IsDigit b r' ∧
      IsDigit c g ∧ IsDigit d g' ∧ IsDigit e b' ∧ IsDigit f b'' ∧
      65536 * (16 * r + r') + 256 * (16 * g + g') + (16 * b' + b'') = n := by
  constructor
  · rintro ⟨values, each, rfl⟩
    match values, each with
    | [r, r', g, g', b', b''],
      .cons high (.cons low (.cons high' (.cons low' (.cons high'' (.cons low'' .nil))))) =>
      refine ⟨r, r', g, g', b', b'', high, low, high', low', high'', low'', ?_⟩
      simp only [List.reverse_cons, List.reverse_nil, List.nil_append, List.cons_append,
        Nat.ofDigits_cons, Nat.ofDigits_nil]
      omega
  · rintro ⟨r, r', g, g', b', b'', high, low, high', low', high'', low'', rfl⟩
    refine ⟨[r, r', g, g', b', b''],
      .cons high (.cons low (.cons high' (.cons low' (.cons high'' (.cons low'' .nil))))), ?_⟩
    simp only [List.reverse_cons, List.reverse_nil, List.nil_append, List.cons_append,
      Nat.ofDigits_cons, Nat.ofDigits_nil]
    omega

/-- A colour is read from six digits of its number. -/
theorem ofDigits?_eq_some_iff {digits : List Char} {color : Color} :
    ofDigits? digits = some color ↔ digits.length = 6 ∧ IsNumeral digits color.value := by
  constructor
  · intro read
    unfold ofDigits? at read
    split at read
    · split at read
      · rename_i redRead greenRead blueRead
        obtain ⟨r, r', high, low, red⟩ := component?_eq_some_iff.mp redRead
        obtain ⟨g, g', high', low', green⟩ := component?_eq_some_iff.mp greenRead
        obtain ⟨b, b', high'', low'', blue⟩ := component?_eq_some_iff.mp blueRead
        obtain rfl := Option.some.inj read
        refine ⟨rfl, isNumeral_six_iff.mpr ⟨r, r', g, g', b, b', high, low, high', low', high'',
          low'', ?_⟩⟩
        rw [value, red, green, blue]
      · cases read
    · cases read
  · rintro ⟨six, numeral⟩
    match digits, six with
    | [a, b, c, d, e, f], _ =>
      obtain ⟨r, r', g, g', b', b'', high, low, high', low', high'', low'', number⟩ :=
        isNumeral_six_iff.mp numeral
      have bounds := And.intro low.lt (And.intro high'.lt (And.intro low'.lt
        (And.intro high''.lt low''.lt)))
      have green := color.green.toNat_lt
      have blue := color.blue.toNat_lt
      unfold value at number
      have red : component? a b = some color.red :=
        component?_eq_some_iff.mpr ⟨r, r', high, low, by omega⟩
      have green : component? c d = some color.green :=
        component?_eq_some_iff.mpr ⟨g, g', high', low', by omega⟩
      have blue : component? e f = some color.blue :=
        component?_eq_some_iff.mpr ⟨b', b'', high'', low'', by omega⟩
      rw [ofDigits?, red, green, blue]

/-- Six digits are those of a colour. -/
theorem IsNumeral.exists_value {digits : List Char} {n : Nat} (numeral : IsNumeral digits n)
    (six : digits.length = 6) : ∃ color : Color, color.value = n := by
  match digits, six with
  | [_, _, _, _, _, _], _ =>
    obtain ⟨r, r', g, g', b, b', high, low, high', low', high'', low'', rfl⟩ :=
      isNumeral_six_iff.mp numeral
    have bounds := And.intro high.lt (And.intro low.lt (And.intro high'.lt (And.intro low'.lt
      (And.intro high''.lt low''.lt))))
    refine ⟨⟨.ofNat (16 * r + r'), .ofNat (16 * g + g'), .ofNat (16 * b + b')⟩, ?_⟩
    simp only [value, UInt8.toNat_ofNat']
    omega

/-! ## Marks -/

/-- What may stand in front of the digits of a colour. -/
def marks : List String := ["", "#", "0x", "0X"]

theorem exists_withoutMark (cs : List Char) :
    ∃ mark ∈ marks, cs = mark.toList ++ withoutMark cs := by
  unfold withoutMark
  split
  · exact ⟨"#", by decide, rfl⟩
  · exact ⟨"0x", by decide, rfl⟩
  · exact ⟨"0X", by decide, rfl⟩
  · exact ⟨"", by decide, rfl⟩

/-- Digits are not taken for a mark. -/
theorem withoutMark_append {mark : String} {digits : List Char}
    (all : ∀ c ∈ digits, ∃ value, IsDigit c value) (known : mark ∈ marks) :
    withoutMark (mark.toList ++ digits) = digits := by
  have readable : ∀ c ∈ digits, (digit? c).isSome = true := by
    intro c member
    obtain ⟨value, digit⟩ := all c member
    rw [digit?_eq_some_iff.mpr digit, Option.isSome_some]
  have plain : withoutMark digits = digits := by
    unfold withoutMark
    split
    · exact absurd (readable '#' (by simp)) (by decide)
    · exact absurd (readable 'x' (by simp)) (by decide)
    · exact absurd (readable 'X' (by simp)) (by decide)
    · rfl
  simp only [marks, List.mem_cons, List.not_mem_nil, or_false] at known
  rcases known with rfl | rfl | rfl | rfl
  · exact plain
  · rfl
  · rfl
  · rfl

/-! ## Spellings -/

/-- A text that spells a number as a colour: at most one mark, six digits, and
blanks around them. -/
def IsSpelling (text : String) (n : Nat) : Prop :=
  ∃ mark ∈ marks, ∃ digits, digits.length = 6 ∧ IsNumeral digits n ∧
    IsSpaced text (mark ++ String.ofList digits)

theorem IsNumeral.exists_isDigit {digits : List Char} {n : Nat} (numeral : IsNumeral digits n) :
    ∀ c ∈ digits, ∃ value, IsDigit c value := by
  obtain ⟨values, each, -⟩ := numeral
  induction each with
  | nil => simp
  | cons digit _ ih => exact List.forall_mem_cons.mpr ⟨⟨_, digit⟩, ih⟩

theorem isTrimmed_marked {mark : String} {digits : List Char}
    (all : ∀ c ∈ digits, ∃ value, IsDigit c value) (known : mark ∈ marks) :
    IsTrimmed (mark.toList ++ digits) := by
  have solid : marks.all fun mark => mark.toList.all (!isBlank ·) := by decide
  refine Text.isTrimmed_of_solid fun c member => ?_
  rcases List.mem_append.mp member with marked | digit
  · simpa using List.all_eq_true.mp (List.all_eq_true.mp solid mark known) c marked
  · obtain ⟨value, is⟩ := all c digit
    exact is.isBlank

theorem ofText_ok_iff {text : String} {color : Color} :
    ofText text = .ok color ↔ IsSpelling text color.value := by
  have read : ofText text = .ok color ↔
      ofDigits? (withoutMark (trimChars text.toList)) = some color := by
    unfold ofText
    cases ofDigits? (withoutMark (trimChars text.toList)) <;> simp
  rw [read, ofDigits?_eq_some_iff]
  constructor
  · rintro ⟨six, numeral⟩
    obtain ⟨mark, known, split⟩ := exists_withoutMark (trimChars text.toList)
    refine ⟨mark, known, _, six, numeral, ?_⟩
    have spaced := isSpaced_trimChars text
    rw [split, String.ofList_append, String.ofList_toList] at spaced
    exact spaced
  · rintro ⟨mark, known, digits, six, numeral, spaced⟩
    have all := numeral.exists_isDigit
    rw [spaced.trimChars_eq, String.toList_append, String.toList_ofList,
      isTrimmed_marked all known, withoutMark_append all known]
    exact ⟨six, numeral⟩

/-- A text spells the numbers of the colours that are read from it. -/
theorem isSpelling_iff {text : String} {n : Nat} :
    IsSpelling text n ↔ ∃ color : Color, color.value = n ∧ ofText text = .ok color := by
  constructor
  · rintro ⟨mark, known, digits, six, numeral, spaced⟩
    obtain ⟨color, rfl⟩ := numeral.exists_value six
    exact ⟨color, rfl, ofText_ok_iff.mpr ⟨mark, known, digits, six, numeral, spaced⟩⟩
  · rintro ⟨color, rfl, read⟩
    exact ofText_ok_iff.mp read

theorem ofText_eq_error {text : String} (foreign : ∀ n, ¬ IsSpelling text n) :
    ofText text = .error (.color text) := by
  cases read : ofText text with
  | ok color => exact absurd (ofText_ok_iff.mp read) (foreign color.value)
  | error fault =>
      unfold ofText at read
      split at read
      · cases read
      · exact read.symm

/-! ## Printed colours -/

theorem upperDigits_digit {n : Nat} (small : n < 16) : upperDigits[n]? = some (digit n) := by
  have all : ∀ n < 16, upperDigits[n]? = some (digit n) := by decide
  exact all n small

/-- The printed digits are those of the number. -/
theorem isNumeral_digits (color : Color) : IsNumeral color.digits color.value := by
  have red := color.red.toNat_lt
  have green := color.green.toNat_lt
  have blue := color.blue.toNat_lt
  have isDigit : ∀ n < 16, IsDigit (digit n) n := fun n small => .inr (upperDigits_digit small)
  refine isNumeral_six_iff.mpr ⟨_, _, _, _, _, _, isDigit _ (by omega), isDigit _ (by omega),
    isDigit _ (by omega), isDigit _ (by omega), isDigit _ (by omega), isDigit _ (by omega), ?_⟩
  unfold value
  omega

/-- The printed digits after any mark, with any blanks around, are a spelling. -/
theorem ofText_printed {color : Color} {mark text : String} (known : mark ∈ marks)
    (spaced : IsSpaced text (mark ++ String.ofList color.digits)) : ofText text = .ok color :=
  ofText_ok_iff.mpr ⟨mark, known, color.digits, rfl, isNumeral_digits color, spaced⟩

/-- A colour is spelled by its text. -/
theorem ofText_manifestText (color : Color) : ofText color.manifestText = .ok color :=
  ofText_printed (show "#" ∈ marks by decide) (isSpaced_refl _)

/-- A text is read as a colour just when it is six hexadecimal digits of either
letter case with at most one mark in front and blanks around, and the number of
the colour is that of the digits; every other text is an error. Both texts of a
colour have six digits, which are those of its number, so they are read back
with any blanks around them. -/
theorem spelled_exactly :
    (∀ text n, IsSpelling text n ↔ ∃ color : Color, color.value = n ∧ ofText text = .ok color) ∧
    (∀ text, (∀ n, ¬ IsSpelling text n) → ofText text = .error (.color text)) ∧
    (∀ (color : Color) (text : String),
      IsSpaced text color.filterText ∨ IsSpaced text color.manifestText →
      ofText text = .ok color) ∧
    (∀ color : Color, color.value < 2 ^ 24 ∧ ∃ digits, digits.length = 6 ∧
      IsNumeral digits color.value ∧ (∀ c ∈ digits, c ∈ upperDigits) ∧
      color.filterText = "0x" ++ String.ofList digits ∧
      color.manifestText = "#" ++ String.ofList digits) := by
  refine ⟨fun text n => isSpelling_iff, fun text => ofText_eq_error, ?_, fun color => ?_⟩
  · rintro color text (filter | manifest)
    · exact ofText_printed (by decide) filter
    · exact ofText_printed (by decide) manifest
  · refine ⟨color.value_lt, color.digits, rfl, isNumeral_digits color, ?_, rfl, rfl⟩
    exact color.forall_mem_digits fun n small => List.mem_of_getElem? (upperDigits_digit small)

theorem spelled_exactly_handwritten :
    IsSpelling "\u3000 0Xff8000\n" 16744448 ∧
    ofText "\u3000 0Xff8000\n" = .ok ⟨255, 128, 0⟩ ∧
    ofText "0x1234" = .error (.color "0x1234") ∧
    ofText " #FF8000" = .ok ⟨255, 128, 0⟩ := by
  obtain ⟨reads, fails, readsBack, -⟩ := spelled_exactly
  have numeral : IsNumeral ['f', 'f', '8', '0', '0', '0'] 16744448 :=
    isNumeral_six_iff.mpr ⟨15, 15, 8, 0, 0, 0, by decide⟩
  have spells : IsSpelling "\u3000 0Xff8000\n" 16744448 :=
    ⟨"0X", by decide, _, rfl, numeral, ['\u3000', ' '], ['\n'], by decide, by decide, by decide⟩
  have short : ∀ n, ¬ IsSpelling "0x1234" n := by
    intro n spells
    obtain ⟨color, -, read⟩ := (reads _ n).mp spells
    have unread : (ofText "0x1234").toOption = none := by decide
    rw [read] at unread
    cases unread
  refine ⟨spells, ?_, fails _ short, ?_⟩
  · obtain ⟨color, equal, read⟩ := (reads _ _).mp spells
    have same : color = ⟨255, 128, 0⟩ := value_injective (equal.trans (by decide))
    rwa [same] at read
  · exact readsBack ⟨255, 128, 0⟩ _ (.inr ⟨[' '], [], by decide, by decide, by decide⟩)

end Montage.Color
