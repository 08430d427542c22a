import Montage.Overlay.Spec
import Montage.Proofs.Decimal.ReadBack
import Montage.Proofs.Filter.Bodies
import Montage.Proofs.Text.Trimming

/-!
# Spelling dimensions

The text that a dimension is written as spells it again
(`Dimension.ofText_text`). A percentage has to be finite.
-/

namespace Montage

open Text (IsTrimmed isBlank isTrimmed_of_solid)

theorem solid_of_isMadeOf {text : String} (made : IsMadeOf isWordChar text) :
    ∀ c ∈ text.toList, isBlank c = false :=
  fun _ member => isBlank_eq_false (made.filters.mem member)

namespace Dimension

theorem withoutMark?_of_notMem {mark cs : List Char} {c : Char} (inMark : c ∈ mark)
    (absent : c ∉ cs) : withoutMark? mark cs = none := by
  unfold withoutMark?
  rw [if_neg]
  intro suffix
  exact absent ((List.isSuffixOf_iff_suffix.mp suffix).subset inMark)

theorem withoutMark?_append (cs mark : List Char) : withoutMark? mark (cs ++ mark) = some cs := by
  unfold withoutMark?
  rw [if_pos (List.isSuffixOf_iff_suffix.mpr (List.suffix_append cs mark))]
  simp

theorem ofText_pixels (count : UInt32) : ofText (pixels count).text = .ok (pixels count) := by
  have trimmed : IsTrimmed (Nat.toDigits 10 count.toNat) := by
    have solid := solid_of_isMadeOf (isMadeOf_nat count.toNat)
    rw [toList_toString] at solid
    exact isTrimmed_of_solid solid
  have absent : ∀ c : Char, c.isDigit = false → c ∉ Nat.toDigits 10 count.toNat := by
    intro c other member
    rw [toDigits_isDigit member] at other
    cases other
  have word : Decimal.word? (String.ofList (Nat.toDigits 10 count.toNat)) = some count := by
    have bound : count.toNat ≤ UInt32.size - 1 := Nat.le_sub_one_of_lt count.toNat_lt
    rw [Decimal.word?, Decimal.natUpTo?_toDigits, if_pos bound]
    simp
  unfold ofText text
  dsimp only
  rw [toList_toString, trimmed, withoutMark?_of_notMem (c := '%') (by simp) (absent _ (by decide)),
    withoutMark?_of_notMem (c := 'x') (by simp) (absent _ (by decide))]
  dsimp only [Option.getD_none]
  rw [trimmed, word]
  rfl

theorem ofText_percent {share : Binary64} (finite : share.isFinite = true) :
    ofText (percent share).text = .ok (percent share) := by
  have solid := solid_of_isMadeOf (isMadeOf_plainText share)
  have trimmed : IsTrimmed (share.plainText.toList ++ ['%']) := by
    refine isTrimmed_of_solid fun c member => ?_
    rcases List.mem_append.mp member with here | mark
    · exact solid c here
    · rw [List.mem_singleton.mp mark]
      decide
  have chars : (share.plainText ++ "%").toList = share.plainText.toList ++ ['%'] :=
    String.toList_append
  unfold ofText text
  dsimp only
  rw [chars, trimmed, withoutMark?_append]
  dsimp only
  rw [isTrimmed_of_solid solid, String.ofList_toList, Binary64.ofText?_plainText finite]
  rfl

/-- The percentage of a dimension, if it is one. -/
def share? : Dimension → Option Binary64
  | pixels _ => none
  | percent share => some share

/-- A dimension is spelled by its text. -/
theorem ofText_text {dimension : Dimension}
    (finite : ∀ share ∈ dimension.share?, share.isFinite = true) :
    ofText dimension.text = .ok dimension := by
  cases dimension with
  | pixels count => exact ofText_pixels count
  | percent share => exact ofText_percent (finite share rfl)

end Dimension

end Montage
