import MapLabel.ValueError
import MapLabel.Text.Transform
/-!
Properties whose value is one of a few named choices.
-/

namespace MapLabel

/-- A type of named choices. -/
class Choice (α : Type) where
  values : List α
  /-- The name in style files. -/
  name : α → String
  /-- A second name, for scripts, if the choice has one. -/
  constant? : α → Option String
  /-- The complaint about a word that names no choice. -/
  unknown : String → ValueError

namespace Choice

variable {α : Type} [Choice α]

/-- The text with its ASCII letters in lower case. -/
def foldCase (s : String) : List Char := s.toList.map Char.toLower

/-- The first choice with the given name, in any case, or with the given constant. -/
def read (s : String) : Except ValueError α :=
  match (values (α := α)).find? fun a => foldCase s == foldCase (name a) || constant? a == some s with
  | some a => .ok a
  | none => .error (unknown (α := α) s)

/-- The choice with exactly the given name. -/
def ofName? (s : String) : Option α := (values (α := α)).find? fun a => name a == s

end Choice

instance : Choice TextTransform where
  values := TextTransform.all
  name := TextTransform.name
  constant? _ := none
  unknown := .unknownTransform

end MapLabel
