/-!
# Misspelled values

Positions, dimensions, colours and resolutions are written as short texts. A
text that spells no value is reported as it was given.
-/

namespace Montage

/-- A text that spells no value of the kind it should. -/
inductive SpellingError where
  | dimension (text : String)
  | color (text : String)
  | position (text : String)
  | resolution (text : String)
deriving DecidableEq

/-- How a misspelling is worded. -/
def SpellingError.message : SpellingError → String
  | dimension text => "Invalid dimension: " ++ text
  | color text => "Invalid color: " ++ text
  | position text => "Unknown position: " ++ text
  | resolution text => "Invalid resolution: " ++ text

end Montage
