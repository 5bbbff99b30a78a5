import MapLabel.Number.Decimal
/-!
The text of a number in labels and messages: the fewest digits that read back, written out in full.
-/

namespace MapLabel.Number

/-- The sign of a zero is kept, that of a value that is no number is not. -/
def text (x : Float) : String :=
  if x.isNaN then "NaN"
  else
    let negative := Nat.pow 2 63 ≤ x.toBits.toNat
    let magnitude :=
      if x.isInf then "inf"
      else if x == 0 then "0"
      else (Magnitude.ofFloat x).shortest.text
    if negative then "-" ++ magnitude else magnitude

end MapLabel.Number
