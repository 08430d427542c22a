import Montage.Spelling
import Montage.Text.Lower

/-!
# Positions

An overlay is anchored at one of five places of the base frame.
-/

namespace Montage

/-- An anchor inside the base frame. -/
inductive Position where
  | topLeft
  | topRight
  | bottomLeft
  | bottomRight
  | center
deriving DecidableEq, Inhabited

namespace Position

/-- The anchors in their listed order. -/
def all : List Position := [topLeft, topRight, bottomLeft, bottomRight, center]

/-- The name of an anchor. -/
def name : Position → String
  | topLeft => "top-left"
  | topRight => "top-right"
  | bottomLeft => "bottom-left"
  | bottomRight => "bottom-right"
  | center => "center"

/-- The name of an anchor in any letter case, with underscores for hyphens;
`centre` is a second spelling of `center`. -/
def ofText (text : String) : Except SpellingError Position :=
  let key := (Text.lower text).map fun c => if c = '_' then '-' else c
  match all.find? (·.name == key) with
  | some position => .ok position
  | none => if key = "centre" then .ok center else .error (.position text)

end Position

end Montage
