/-!
Words in a style file that name no value.
-/

namespace MapLabel

/-- Why a word could not be read as a value. -/
inductive ValueError where
  | notHexColor (text : String)
  | unknownTransform (text : String)
  /-- The word is no value of the named choice. -/
  | unknownChoice (property text : String)
deriving DecidableEq, Repr

namespace ValueError

/-- The property for which a value was wanted. -/
def property : ValueError → String
  | notHexColor _ => "color"
  | unknownTransform _ => "text_transform"
  | unknownChoice property _ => property

def reason : ValueError → String
  | notHexColor text => s!"'{text}' is not a hex color"
  | unknownTransform text => s!"unknown transform '{text}'"
  | unknownChoice _ text => s!"unknown value '{text}'"

def message (e : ValueError) : String := s!"Invalid value for property '{e.property}': {e.reason}"

end ValueError

end MapLabel
