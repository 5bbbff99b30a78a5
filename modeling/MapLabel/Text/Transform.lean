import MapLabel.Text.Case
import MapLabel.Text.Words
/-!
Case transformations of label text.
-/

namespace MapLabel

/-- What happens to the case of a text before it is shown. -/
inductive TextTransform where
  | none
  | uppercase
  | lowercase
  /-- Upper case at the start of each word, lower case after it. -/
  | capitalize
deriving DecidableEq, Repr, Inhabited

namespace TextTransform

def all : List TextTransform := [none, uppercase, lowercase, capitalize]

/-- The name in style files. -/
def name : TextTransform → String
  | none => "none"
  | uppercase => "uppercase"
  | lowercase => "lowercase"
  | capitalize => "capitalize"

/-- A word with its first character in upper case. The rest is lowered on its own, so the first
character is no context for it. -/
def capitalizeWord : List Char → List Char
  | [] => []
  | c :: cs => Text.upperChar c ++ Text.toLower cs

/-- The transformation on characters. -/
def applyChars : TextTransform → List Char → List Char
  | none, cs => cs
  | uppercase, cs => Text.toUpper cs
  | lowercase, cs => Text.toLower cs
  | capitalize, cs => (Text.Words.split cs).flatMap capitalizeWord

/-- The transformed text. -/
def apply (t : TextTransform) (s : String) : String := String.ofList (t.applyChars s.toList)

end TextTransform

end MapLabel
