import MapLabel.Editing
import MapLabel.Placement.Basic
/-!
Sources of candidate placements.

A source has default placement parameters and yields candidates by number. What it does when its
defaults are replaced is its own affair: it may refuse, and it may be another source afterwards even
then.
-/

namespace MapLabel

/-- Types whose values yield candidates for the placement of a label. -/
class CandidateSource (σ : Type) where
  /-- The placement that the candidates start from. -/
  defaults : σ → Placement
  /-- The outcome of replacing the defaults, and the source after it. -/
  setDefaults : σ → Placement → Except PlacementError Unit × σ
  /-- The candidate with a number. -/
  candidate? : σ → Nat → Option Placement
  /-- How many candidates there are, if that is known without trying. -/
  count? : σ → Option Nat := fun _ => none
  /-- Adds the expressions that the candidates read to a set. -/
  collect : σ → ExpressionSet → ExpressionSet := fun source s => (defaults source).collect s

/-- Moves the label above and below its anchor by turns, further away each time. -/
structure Zigzag where
  defaults : Placement
  steps : Nat

namespace Zigzag

/-- The vertical offset of a candidate, four units more for every second one. -/
def offset (i : Nat) : Float :=
  let distance := (i / 2 + 1).toFloat * 4
  if i % 2 = 0 then distance else -distance

def candidate? (z : Zigzag) (i : Nat) : Option Placement :=
  if i < z.steps then some { z.defaults with displacement := ⟨0, offset i⟩ } else none

instance : CandidateSource Zigzag where
  defaults := defaults
  setDefaults z p := editing z do
    p.validate
    modify fun z => { z with defaults := p }
  candidate? := candidate?

end Zigzag

/-- Makes the text smaller by two units each time, down to a least size. -/
structure Shrinking where
  defaults : Placement
  minSize : Float

namespace Shrinking

def candidate? (s : Shrinking) (i : Nat) : Option Placement :=
  let size := s.defaults.style.textSize - 2 * i.toFloat
  if s.minSize ≤ size then
    some { s.defaults with style := { s.defaults.style with textSize := size } }
  else none

instance : CandidateSource Shrinking where
  defaults := defaults
  setDefaults s p := editing s do
    p.validate
    modify fun s => { s with defaults := p }
  candidate? := candidate?

end Shrinking

end MapLabel
