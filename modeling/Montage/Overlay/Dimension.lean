import Montage.Decimal.Layout
import Montage.Decimal.Reading
import Montage.Spelling
import Montage.Text.Blank

/-!
# Dimensions

The width or height of an overlay is a number of pixels or a percentage of the
base frame along the same axis.
-/

namespace Montage

/-- A width or a height. -/
inductive Dimension where
  | pixels (count : UInt32)
  | percent (share : Binary64)
deriving DecidableEq

namespace Dimension

/-- The text without its last `mark.length` characters, if it ends in `mark`. -/
def withoutMark? (mark : List Char) (cs : List Char) : Option (List Char) :=
  if mark.isSuffixOf cs then some (cs.take (cs.length - mark.length)) else none

/-- The number of pixels against a base extent: a percentage is rounded to the
nearest pixel and is never less than one. -/
def resolve (base : UInt32) : Dimension → UInt32
  | pixels count => count
  | percent share =>
    ((Binary64.ofNat base.toNat * share / 100).clampToNat 1 (UInt32.size - 1)).toUInt32

/-- Whether an overlay of this extent can be seen. -/
def isPositive : Dimension → Bool
  | pixels count => count != 0
  | percent share => share.isFinitePositive

/-- The text of a dimension: `480` or `25%`. -/
def text : Dimension → String
  | pixels count => toString count.toNat
  | percent share => share.plainText ++ "%"

/-- A percentage ends in `%`, pixels may end in `px`; blanks may stand around
the number and the mark. -/
def ofText (text : String) : Except SpellingError Dimension :=
  let trimmed := Text.trimChars text.toList
  let result := match withoutMark? ['%'] trimmed with
    | some share =>
      (Binary64.ofText? (String.ofList (Text.trimChars share))).map percent
    | none =>
      let count := (withoutMark? ['p', 'x'] trimmed).getD trimmed
      (Decimal.word? (String.ofList (Text.trimChars count))).map pixels
  match result with
  | some dimension => .ok dimension
  | none => .error (.dimension text)

end Dimension

end Montage
