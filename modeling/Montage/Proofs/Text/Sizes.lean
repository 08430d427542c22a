import Montage.Output
import Montage.Proofs.Overlay.Spelling

/-!
# Texts of sizes

A number of pixels is spelled by the numerals of exactly that number, with
blanks around them and perhaps a mark after them (`Dimension.ofText_pixels_iff`),
and a resolution by two such numerals around a separator
(`Resolution.ofText_ok_iff`). So numbers of more than 32 bits are not read at
all, and what is printed is read back as it was, with any blanks around it
(`sizes_lossless`).
-/

namespace Montage

open Text (AllBlank IsTrimmed isBlank trimChars)
open Decimal (IsNumeral isNumeral_iff isNumeral_toDigits word?_eq_some_iff)

/-! ## Numerals between blanks -/

/-- A text with another one in it and nothing but blanks around that. -/
def IsSpaced (text core : String) : Prop :=
  ∃ leading trailing, AllBlank leading ∧ AllBlank trailing ∧
    text.toList = leading ++ (core.toList ++ trailing)

theorem IsSpaced.trimChars_eq {text core : String} (spaced : IsSpaced text core) :
    trimChars text.toList = trimChars core.toList := by
  obtain ⟨leading, trailing, before, after, chars⟩ := spaced
  rw [chars, Text.trimChars_between before after]

theorem isSpaced_refl (text : String) : IsSpaced text text :=
  ⟨[], [], by simp [AllBlank], by simp [AllBlank], by simp⟩

theorem isSpaced_trimChars (text : String) :
    IsSpaced text (String.ofList (trimChars text.toList)) := by
  obtain ⟨leading, trailing, before, after, chars⟩ := Text.exists_trimChars text.toList
  refine ⟨leading, trailing, before, after, ?_⟩
  rwa [String.toList_ofList]

/-- A numeral with blanks around it. -/
def IsSpacedNumeral (text : String) (n : Nat) : Prop :=
  ∃ numeral, IsSpaced text numeral ∧ IsNumeral numeral n

theorem isNumeral_toString (n : Nat) : IsNumeral (toString n) n := by
  rw [← String.ofList_toList (s := toString n), toList_toString]
  exact isNumeral_toDigits n

namespace Decimal.IsNumeral

variable {text : String} {n : Nat}

theorem solid (numeral : IsNumeral text n) : ∀ c ∈ text.toList, isBlank c = false := by
  intro c member
  rcases numeral.chars c member with rfl | digit
  · decide
  · exact isBlank_eq_false (by simp [isFilterChar, isWordChar, Char.isAlphanum, digit])

theorem notMem {c : Char} (numeral : IsNumeral text n) (unsigned : c ≠ '+')
    (other : c.isDigit = false) : c ∉ text.toList := by
  intro member
  rcases numeral.chars c member with rfl | digit
  · exact unsigned rfl
  · rw [other] at digit
    cases digit

theorem exists_cons (numeral : IsNumeral text n) : ∃ c rest, text.toList = c :: rest := by
  obtain ⟨digits, some_, -, -, plain | signed⟩ := numeral
  · rw [plain]
    exact List.exists_cons_of_ne_nil some_
  · exact ⟨_, _, signed⟩

end Decimal.IsNumeral

/-- A word is read from its numerals and from nothing else. -/
theorem word?_trimChars_iff {text : String} {word : UInt32} :
    Decimal.word? (String.ofList (trimChars text.toList)) = some word ↔
      IsSpacedNumeral text word.toNat := by
  rw [word?_eq_some_iff]
  constructor
  · exact fun digits => ⟨_, isSpaced_trimChars text, digits⟩
  · rintro ⟨numeral, spaced, digits⟩
    have trimmed : trimChars numeral.toList = numeral.toList :=
      Text.isTrimmed_of_solid digits.solid
    rwa [spaced.trimChars_eq, trimmed, String.ofList_toList]

/-- A number of more than 32 bits is read as no word. -/
theorem IsSpacedNumeral.word?_eq_none {text : String} {n : Nat} (spaced : IsSpacedNumeral text n)
    (large : 4294967295 < n) :
    Decimal.word? (String.ofList (trimChars text.toList)) = none := by
  obtain ⟨numeral, spaced, digits⟩ := spaced
  have trimmed : trimChars numeral.toList = numeral.toList :=
    Text.isTrimmed_of_solid digits.solid
  rw [spaced.trimChars_eq, trimmed, String.ofList_toList, digits.word?, if_neg]
  exact fun small => absurd (Nat.le_sub_one_of_lt small) (Nat.not_le_of_lt large)

/-! ## Dimensions -/

namespace Dimension

variable {text : String} {n : Nat}

/-- What is spelled like a number of pixels: a numeral with or without the mark
`px` after it, and blanks anywhere around them. -/
def IsPixels (text : String) (n : Nat) : Prop :=
  ∃ number, IsSpacedNumeral number n ∧ (text = number ∨ IsSpaced text (number ++ "px"))

theorem eq_append_of_withoutMark? {mark cs rest : List Char}
    (marked : withoutMark? mark cs = some rest) : cs = rest ++ mark := by
  unfold withoutMark? at marked
  split at marked
  · rename_i suffix
    obtain ⟨front, rfl⟩ := List.isSuffixOf_iff_suffix.mp suffix
    obtain rfl := Option.some.inj marked
    simp
  · cases marked

/-- What stands between the blanks at the ends, read as a dimension. -/
def ofTrimmed? (cs : List Char) : Option Dimension :=
  match withoutMark? ['%'] cs with
  | some share => (Binary64.ofText? (String.ofList (trimChars share))).map percent
  | none =>
    (Decimal.word? (String.ofList (trimChars ((withoutMark? ['p', 'x'] cs).getD cs)))).map pixels

theorem ofText_eq (text : String) :
    ofText text = (ofTrimmed? (trimChars text.toList)).elim (.error (.dimension text)) .ok := by
  unfold ofText
  dsimp only
  split
  · rename_i dimension read
    have same : ofTrimmed? (trimChars text.toList) = some dimension := read
    rw [same, Option.elim_some]
  · rename_i read
    have same : ofTrimmed? (trimChars text.toList) = none := read
    rw [same, Option.elim_none]

theorem ofText_ok_iff {text : String} {dimension : Dimension} :
    ofText text = .ok dimension ↔ ofTrimmed? (trimChars text.toList) = some dimension := by
  rw [ofText_eq]
  cases ofTrimmed? (trimChars text.toList) <;> simp

/-- Blanks around a dimension make no difference. -/
theorem ofText_of_isSpaced {text core : String} {dimension : Dimension}
    (spaced : IsSpaced text core) (read : ofText core = .ok dimension) :
    ofText text = .ok dimension := by
  rw [ofText_ok_iff] at read ⊢
  rwa [spaced.trimChars_eq]

theorem ofTrimmed?_of_notMem {cs : List Char} (unmarked : '%' ∉ cs) :
    ofTrimmed? cs = (Decimal.word? (String.ofList
      (trimChars ((withoutMark? ['p', 'x'] cs).getD cs)))).map pixels := by
  unfold ofTrimmed?
  rw [withoutMark?_of_notMem List.mem_cons_self unmarked]

/-- What is spelled like a number of pixels is read as a word. -/
theorem IsPixels.ofTrimmed?_eq (spelled : IsPixels text n) :
    ∃ number, IsSpacedNumeral number n ∧ ofTrimmed? (trimChars text.toList) =
      (Decimal.word? (String.ofList (trimChars number.toList))).map pixels := by
  obtain ⟨number, ⟨numeral, spaced, digits⟩, plain | marked⟩ := spelled
  · subst plain
    refine ⟨text, ⟨numeral, spaced, digits⟩, ?_⟩
    have trimmed : trimChars text.toList = numeral.toList := by
      rw [spaced.trimChars_eq, Text.isTrimmed_of_solid digits.solid]
    rw [trimmed, ofTrimmed?_of_notMem (digits.notMem (by decide) (by decide)),
      withoutMark?_of_notMem (c := 'p') (by simp) (digits.notMem (by decide) (by decide)),
      Option.getD_none, Text.isTrimmed_of_solid digits.solid]
  · refine ⟨number, ⟨numeral, spaced, digits⟩, ?_⟩
    obtain ⟨leading, trailing, before, after, chars⟩ := spaced
    obtain ⟨first, rest, head⟩ := digits.exists_cons
    have solid : isBlank first = false := digits.solid first (by simp [head])
    -- the numeral and the mark are the ends of what stands between the blanks
    have trimmed : trimChars text.toList = numeral.toList ++ trailing ++ ['p', 'x'] := by
      have split : (number ++ "px").toList =
          leading ++ ((numeral.toList ++ trailing ++ ['p', 'x']) ++ []) := by
        simp [chars]
      rw [marked.trimChars_eq, split, Text.trimChars_between before (by simp [AllBlank]), head]
      have ends : IsTrimmed (first :: ((rest ++ trailing ++ ['p']) ++ ['x'])) :=
        Text.isTrimmed_of_ends solid (by decide) _
      simpa [IsTrimmed] using ends
    have unmarked : '%' ∉ numeral.toList ++ trailing ++ ['p', 'x'] := by
      simp only [List.mem_append, not_or]
      refine ⟨⟨digits.notMem (by decide) (by decide), fun blank => ?_⟩, by decide⟩
      exact absurd (after '%' blank) (by decide)
    rw [trimmed, ofTrimmed?_of_notMem unmarked, withoutMark?_append, Option.getD_some, chars]
    rw [Text.trimChars_between before after]
    have same : trimChars ([] ++ (numeral.toList ++ trailing)) = trimChars numeral.toList :=
      Text.trimChars_between (by simp [AllBlank]) after numeral.toList
    rw [List.nil_append] at same
    rw [same]

/-- A number of pixels is read from its numerals and from nothing else. -/
theorem ofText_pixels_iff {text : String} {count : UInt32} :
    ofText text = .ok (pixels count) ↔ IsPixels text count.toNat := by
  rw [ofText_ok_iff]
  constructor
  · intro read
    unfold ofTrimmed? at read
    split at read
    · obtain ⟨share, -, equal⟩ := Option.map_eq_some_iff.mp read
      cases equal
    · obtain ⟨word, read, equal⟩ := Option.map_eq_some_iff.mp read
      cases equal
      cases marked : withoutMark? ['p', 'x'] (trimChars text.toList) with
      | none =>
          rw [marked, Option.getD_none, Text.isTrimmed_trimChars] at read
          exact ⟨text, word?_trimChars_iff.mp read, .inl rfl⟩
      | some front =>
          rw [marked, Option.getD_some] at read
          refine ⟨String.ofList front, ?_, .inr ?_⟩
          · rw [← word?_trimChars_iff, String.toList_ofList]
            exact read
          · have spaced := isSpaced_trimChars text
            rw [eq_append_of_withoutMark? marked, String.ofList_append] at spaced
            exact spaced
  · intro spelled
    obtain ⟨number, spaced, equal⟩ := spelled.ofTrimmed?_eq
    rw [equal, word?_trimChars_iff.mpr spaced]
    rfl

/-- A number of more than 32 bits is no number of pixels. -/
theorem IsPixels.ofText_eq_error (spelled : IsPixels text n) (large : 4294967295 < n) :
    ofText text = .error (.dimension text) := by
  obtain ⟨number, spaced, equal⟩ := spelled.ofTrimmed?_eq
  rw [ofText_eq, equal, spaced.word?_eq_none large]
  rfl

/-- Every dimension is spelled by its text, the shares that are not finite
included. -/
theorem ofText_text_of_any (dimension : Dimension) : ofText dimension.text = .ok dimension := by
  cases dimension with
  | pixels count => exact ofText_pixels count
  | percent share =>
      cases share with
      | nan => decide
      | infinite negative => cases negative <;> decide
      | finite negative rank => exact ofText_percent rfl

end Dimension

/-! ## Resolutions -/

namespace Resolution

/-- What is spelled like a resolution: two numerals with blanks around them, and
a separator between them. -/
def IsAxes (text : String) (n m : Nat) : Prop :=
  ∃ width separator height, separator ∈ ['x', 'X', ':'] ∧ IsSpacedNumeral width n ∧
    IsSpacedNumeral height m ∧ text = width ++ String.singleton separator ++ height

theorem mem_separators {c : Char} : c ∈ ['x', 'X', ':'] ↔ isSeparator c = true := by
  simp [isSeparator, or_assoc]

end Resolution

/-- No numeral has a separator in it, and neither have the blanks around it. -/
theorem IsSpacedNumeral.not_isSeparator {text : String} {n : Nat}
    (spaced : IsSpacedNumeral text n) :
    ∀ c ∈ text.toList, Resolution.isSeparator c = false := by
  obtain ⟨numeral, ⟨leading, trailing, before, after, chars⟩, digits⟩ := spaced
  intro c member
  by_contra separates
  rw [Bool.not_eq_false, ← Resolution.mem_separators] at separates
  rw [chars, List.mem_append, List.mem_append] at member
  have every : ∀ c ∈ ['x', 'X', ':'], isBlank c = false ∧ c ≠ '+' ∧ c.isDigit = false := by
    simp only [List.forall_mem_cons]
    exact ⟨by decide, by decide, by decide, fun _ none => absurd none List.not_mem_nil⟩
  have solid := every c separates
  rcases member with blank | digit | blank
  · exact absurd (before c blank) (by simp [solid])
  · exact digits.notMem solid.2.1 solid.2.2 digit
  · exact absurd (after c blank) (by simp [solid])

namespace Resolution

/-- The two axes of a text are read on their own. -/
theorem ofText_axes {width height : String} {separator : Char}
    (inFront : ∀ c ∈ width.toList, isSeparator c = false)
    (separates : isSeparator separator = true) :
    ofText (width ++ String.singleton separator ++ height) =
      ((axis? width.toList).bind fun width' => (axis? height.toList).map (mk width')).elim
        (.error (.resolution (width ++ String.singleton separator ++ height))) .ok := by
  have chars : (width ++ String.singleton separator ++ height).toList =
      width.toList ++ separator :: height.toList := by
    simp
  have front : ∀ c ∈ width.toList, (!isSeparator c) = true := by
    simpa using inFront
  unfold ofText
  dsimp only
  rw [chars, List.takeWhile_append_of_pos front, List.dropWhile_append_of_pos front]
  simp only [List.takeWhile_cons, List.dropWhile_cons, separates, Bool.not_true, Bool.false_eq_true,
    if_false, List.append_nil]
  cases axis? width.toList <;> cases axis? height.toList <;> rfl

/-- A resolution is read from the numerals of its axes and from nothing else. -/
theorem ofText_ok_iff {text : String} {resolution : Resolution} :
    ofText text = .ok resolution ↔
      IsAxes text resolution.width.toNat resolution.height.toNat := by
  constructor
  · intro read
    unfold ofText at read
    dsimp only at read
    split at read
    · cases read
    · rename_i separator height rest
      split at read
      · rename_i width' height' widthRead heightRead
        cases read
        refine ⟨String.ofList (text.toList.takeWhile (!isSeparator ·)), separator,
          String.ofList height, ?_, ?_, ?_, ?_⟩
        · have stops := List.head?_dropWhile_not (!isSeparator ·) text.toList
          rw [rest] at stops
          rw [mem_separators]
          simpa using stops
        · rw [← word?_trimChars_iff, String.toList_ofList]
          exact widthRead
        · rw [← word?_trimChars_iff, String.toList_ofList]
          exact heightRead
        · have split := List.takeWhile_append_dropWhile (p := (!isSeparator ·)) (l := text.toList)
          rw [rest] at split
          rw [← String.toList_inj]
          simpa using split.symm
      · cases read
  · rintro ⟨width, separator, height, separates, widthSpaced, heightSpaced, rfl⟩
    rw [ofText_axes widthSpaced.not_isSeparator (mem_separators.mp separates), axis?, axis?,
      word?_trimChars_iff.mpr widthSpaced, word?_trimChars_iff.mpr heightSpaced]
    rfl

theorem IsAxes.ofText_eq_error {text : String} {n m : Nat} (spelled : IsAxes text n m)
    (large : 4294967295 < n ∨ 4294967295 < m) : ofText text = .error (.resolution text) := by
  obtain ⟨width, separator, height, separates, widthSpaced, heightSpaced, rfl⟩ := spelled
  rw [ofText_axes widthSpaced.not_isSeparator (mem_separators.mp separates)]
  rcases large with wide | high
  · rw [axis?, widthSpaced.word?_eq_none wide]
    rfl
  · have none : axis? height.toList = none := heightSpaced.word?_eq_none high
    rw [none]
    cases axis? width.toList <;> rfl

/-- A resolution is spelled by its axes around any separator, and blanks around
either of them make no difference. -/
theorem ofText_around {resolution : Resolution} {width height : String} {separator : Char}
    (widthSpaced : IsSpaced width (toString resolution.width.toNat))
    (heightSpaced : IsSpaced height (toString resolution.height.toNat))
    (separates : separator ∈ ['x', 'X', ':']) :
    ofText (width ++ String.singleton separator ++ height) = .ok resolution :=
  ofText_ok_iff.mpr ⟨width, separator, height, separates, ⟨_, widthSpaced, isNumeral_toString _⟩,
    ⟨_, heightSpaced, isNumeral_toString _⟩, rfl⟩

/-- A resolution is spelled by its text. -/
theorem ofText_text (resolution : Resolution) : ofText resolution.text = .ok resolution := by
  have printed : resolution.text = toString resolution.width.toNat ++ String.singleton 'x' ++
      toString resolution.height.toNat := by
    rw [text, show "x" = String.singleton 'x' from rfl]
  rw [printed]
  exact ofText_around (isSpaced_refl _) (isSpaced_refl _) List.mem_cons_self

end Resolution

/-! ## Sizes -/

/-- What is printed is read back as it was: a dimension with any blanks around
it, and a resolution with any blanks around its axes and any of the separators
between them. What is read can therefore be printed and read again. A number
is read as pixels, or as an axis, only from a numeral of exactly that number,
and a numeral of a number above 4294967295 is an error. -/
theorem sizes_lossless :
    (∀ (dimension : Dimension) text, IsSpaced text dimension.text →
      Dimension.ofText text = .ok dimension) ∧
    (∀ (resolution : Resolution) width height, ∀ separator ∈ ['x', 'X', ':'],
      IsSpaced width (toString resolution.width.toNat) →
      IsSpaced height (toString resolution.height.toNat) →
      Resolution.ofText (width ++ String.singleton separator ++ height) = .ok resolution) ∧
    (∀ text dimension, Dimension.ofText text = .ok dimension →
      Dimension.ofText dimension.text = .ok dimension) ∧
    (∀ text resolution, Resolution.ofText text = .ok resolution →
      Resolution.ofText resolution.text = .ok resolution) ∧
    (∀ text count, Dimension.ofText text = .ok (.pixels count) ↔
      Dimension.IsPixels text count.toNat) ∧
    (∀ text n, Dimension.IsPixels text n → 4294967295 < n →
      Dimension.ofText text = .error (.dimension text)) ∧
    (∀ text resolution, Resolution.ofText text = .ok resolution ↔
      Resolution.IsAxes text resolution.width.toNat resolution.height.toNat) ∧
    (∀ text n m, Resolution.IsAxes text n m → 4294967295 < n ∨ 4294967295 < m →
      Resolution.ofText text = .error (.resolution text)) := by
  refine ⟨?_, ?_, ?_, ?_, ?_, ?_, ?_, ?_⟩
  · intro dimension text spaced
    exact Dimension.ofText_of_isSpaced spaced (Dimension.ofText_text_of_any dimension)
  · intro resolution width height separator separates widthSpaced heightSpaced
    exact Resolution.ofText_around widthSpaced heightSpaced separates
  · intro text dimension _
    exact Dimension.ofText_text_of_any dimension
  · intro text resolution _
    exact Resolution.ofText_text resolution
  · exact fun text count => Dimension.ofText_pixels_iff
  · exact fun text n spelled large => spelled.ofText_eq_error large
  · exact fun text resolution => Resolution.ofText_ok_iff
  · exact fun text n m spelled large => spelled.ofText_eq_error large

theorem sizes_lossless_handwritten :
    Dimension.ofText "\t25% " = .ok (.percent 25) ∧
    Resolution.ofText " 1920 : 1080\n" = .ok ⟨1920, 1080⟩ ∧
    Dimension.ofText "25%" = .ok (.percent 25) ∧
    Resolution.ofText "1920x1080" = .ok ⟨1920, 1080⟩ ∧
    Dimension.ofText "+4294967296 px" = .error (.dimension "+4294967296 px") ∧
    Resolution.ofText "0X4294967296" = .error (.resolution "0X4294967296") := by
  obtain ⟨dimensions, resolutions, dimensionsAgain, resolutionsAgain, -, tooWide, -, tooLarge⟩ :=
    sizes_lossless
  have wide : IsNumeral "4294967296" 4294967296 := by
    rw [isNumeral_iff]
    decide
  have signed : IsNumeral "+4294967296" 4294967296 := by
    rw [isNumeral_iff]
    decide
  have zero : IsNumeral "0" 0 := by
    rw [isNumeral_iff]
    decide
  have dimension : Dimension.ofText "\t25% " = .ok (.percent 25) :=
    dimensions (.percent 25) _ ⟨['\t'], [' '], by decide, by decide, by decide +kernel⟩
  have resolution : Resolution.ofText " 1920 : 1080\n" = .ok ⟨1920, 1080⟩ :=
    resolutions ⟨1920, 1080⟩ " 1920 " " 1080\n" ':' (by decide)
      ⟨[' '], [' '], by decide, by decide, by decide⟩
      ⟨[' '], ['\n'], by decide, by decide, by decide⟩
  refine ⟨dimension, resolution, ?_, ?_, ?_, ?_⟩
  · have text : (Dimension.percent 25).text = "25%" := by decide +kernel
    have again := dimensionsAgain _ _ dimension
    rwa [text] at again
  · exact resolutionsAgain _ _ resolution
  · exact tooWide _ _ ⟨"+4294967296 ", ⟨_, ⟨[], [' '], by decide, by decide, by decide⟩, signed⟩,
      .inr (isSpaced_refl _)⟩ (by decide)
  · exact tooLarge _ _ _ ⟨"0", 'X', "4294967296", by decide, ⟨_, isSpaced_refl _, zero⟩,
      ⟨_, isSpaced_refl _, wide⟩, by decide⟩ (.inr (by decide))

end Montage
