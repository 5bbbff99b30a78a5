/-!
Choosing between two numbers, where one that is not a number counts for nothing.

Of two equal numbers the first is kept, so a zero keeps its sign.
-/

namespace MapLabel.Number

/-- The lesser of two numbers, or the one of them that is a number. -/
def lesser (x y : Float) : Float :=
  if x.isNaN then y else if y < x then y else x

/-- The greater of two numbers, or the one of them that is a number. -/
def greater (x y : Float) : Float :=
  if x.isNaN then y else if x < y then y else x

/-- Positive infinity. -/
def infinity : Float := 1.0 / 0.0

end MapLabel.Number
