/-!
Sets of characters given by the code points at which membership changes.

The first boundary begins the first run of members, the second one ends it, and so on. Membership is
read off by walking the ascending list: it flips at each boundary passed.
-/

namespace MapLabel.Text

/-- A set of characters, by its boundaries in ascending order. -/
structure CharSet where
  boundaries : List Nat

namespace CharSet

/-- Whether an odd number of boundaries lies at or below `n`. -/
def flips (n : Nat) : List Nat → Bool
  | [] => false
  | b :: bs => if n < b then false else !flips n bs

/-- Whether the character is in the set. -/
def contains (s : CharSet) (c : Char) : Bool := flips c.toNat s.boundaries

end CharSet

end MapLabel.Text
