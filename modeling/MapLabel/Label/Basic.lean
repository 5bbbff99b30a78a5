import MapLabel.Expression.Printer
import MapLabel.Style.Basic
/-!
Labels as they are handed to the renderer: runs of styled text, and the failures met on the way.
-/

namespace MapLabel

/-- A piece of text in one style. -/
structure Run where
  text : String
  style : Style
deriving DecidableEq, Repr

/-- An expression that had no value. Its run is there, but empty. -/
structure RunError where
  runIndex : Nat
  /-- The expression as written. -/
  expression : String
  cause : EvalError
deriving DecidableEq, Repr

namespace RunError

def message (e : RunError) : String :=
  s!"Text run {e.runIndex} ({e.expression}) failed: {e.cause.message}"

end RunError

/-- The runs of a label from left to right, and its errors in the order of their runs. -/
structure Label where
  runs : List Run := []
  errors : List RunError := []
deriving DecidableEq, Repr

namespace Label

instance : EmptyCollection Label := ⟨{}⟩
instance : Inhabited Label := ⟨∅⟩

def size (l : Label) : Nat := l.runs.length

def isEmpty (l : Label) : Bool := l.runs.isEmpty

def hasErrors (l : Label) : Bool := !l.errors.isEmpty

/-- The text of all runs. -/
def text (l : Label) : String := String.join (l.runs.map Run.text)

/-- The label with one more run. -/
def push (l : Label) (text : String) (style : Style) : Label := { l with runs := l.runs ++ [⟨text, style⟩] }

/-- The label with one more error. -/
def report (l : Label) (e : RunError) : Label := { l with errors := l.errors ++ [e] }

end Label

end MapLabel
