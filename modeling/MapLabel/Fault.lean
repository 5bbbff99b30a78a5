import MapLabel.Number.Text
import MapLabel.Text.Blank
/-!
What can be wrong with a single number or name in a style, and the first fault of a row of checks.
-/

namespace MapLabel

/-- Why a number or a name is refused. -/
inductive Fault where
  | notFinite (x : Float)
  | sizeNotPositive (x : Float)
  | opacityOutOfRange (x : Float)
  | radiusNegative (x : Float)
  | negative (x : Float)
  | blankName
deriving DecidableEq, Repr

namespace Fault

def message : Fault → String
  | notFinite x => s!"{Number.text x} is not a finite number"
  | sizeNotPositive x => s!"size must be positive, got {Number.text x}"
  | opacityOutOfRange x => s!"opacity must be within 0..=1, got {Number.text x}"
  | radiusNegative x => s!"radius must not be negative, got {Number.text x}"
  | negative x => s!"must not be negative, got {Number.text x}"
  | blankName => "name must not be empty"

/-! Each check answers with the fault of a value, or `none` if the value is usable. -/

def ofNumber (x : Float) : Option Fault := if x.isFinite then none else some (notFinite x)

def ofSize (x : Float) : Option Fault :=
  (ofNumber x).or (if x ≤ 0 then some (sizeNotPositive x) else none)

def ofOpacity (x : Float) : Option Fault :=
  (ofNumber x).or (if 0 ≤ x ∧ x ≤ 1 then none else some (opacityOutOfRange x))

def ofRadius (x : Float) : Option Fault :=
  (ofNumber x).or (if x < 0 then some (radiusNegative x) else none)

def ofDistance (x : Float) : Option Fault :=
  (ofNumber x).or (if x < 0 then some (negative x) else none)

def ofName (s : String) : Option Fault := if Text.trim s.toList = [] then some blankName else none

/-- The first fault in a row of checked fields, with its field. -/
def first? {φ : Type} (checks : List (φ × Option Fault)) : Option (φ × Fault) :=
  checks.findSome? fun (field, fault) => fault.map (field, ·)

end Fault

end MapLabel
