/-!
Edits that can be refused.

An edit takes steps, each of which may change what is edited or fail. A failure ends the edit there and
then. Nothing is taken back, so an edit that is to change nothing when it is refused has to make its checks
before it makes its changes.
-/

namespace MapLabel

/-- The outcome of the steps of an edit, and what has become of the thing edited. -/
def editing {ε σ : Type} (s : σ) (steps : ExceptT ε (StateM σ) Unit) : Except ε Unit × σ := steps.run.run s

/-- What an edit has made of a thing that is of no further use if the edit was refused. -/
def edited {ε σ : Type} : Except ε Unit × σ → Except ε σ
  | (.ok _, s) => .ok s
  | (.error e, _) => .error e

end MapLabel
