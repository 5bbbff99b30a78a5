import MapLabel.Number.Decimal
import MapLabel.Number.Compare
/-!
Reading a number from text.

A numeral is an optional sign followed by `inf`, `infinity` or `nan` in any case, or by digits with an
optional point among or around them and an optional exponent. Nothing else may stand beside it.
-/

namespace MapLabel.Number

/-- The float nearest to a decimal. Far outside the range of floats the answer is known without
computing the power of ten. -/
def Decimal.toFloat (d : Decimal) : Float :=
  let top := digitCount d.digits + d.exponent
  if d.digits = 0 ∨ top < -400 then 0
  else if 400 < top then infinity
  else Float.ofScientific d.digits (d.exponent < 0) d.exponent.natAbs

namespace Numeral

/-- The digits at the front and what follows them. -/
def splitDigits (cs : List Char) : List Char × List Char :=
  (cs.takeWhile Char.isDigit, cs.dropWhile Char.isDigit)

/-- The number that a list of digits denotes. -/
def natOfDigits (ds : List Char) : Nat :=
  ds.foldl (fun n c => 10 * n + (c.toNat - '0'.toNat)) 0

/-- A sign, if there is one, and what follows it. -/
def splitSign : List Char → Bool × List Char
  | '-' :: cs => (true, cs)
  | '+' :: cs => (false, cs)
  | cs => (false, cs)

/-- An exponent, which must end the text. -/
def exponent? : List Char → Option Int
  | [] => some 0
  | c :: cs =>
    if c = 'e' ∨ c = 'E' then
      let (negative, ds) := splitSign cs
      if ds ≠ [] ∧ ds.all Char.isDigit then
        let n : Int := natOfDigits ds
        some (if negative then -n else n)
      else none
    else none

/-- A decimal without sign. There is a digit before the point or after it. -/
def decimal? (cs : List Char) : Option Decimal :=
  let (whole, rest) := splitDigits cs
  let (fraction, rest) := match rest with
    | '.' :: rest => splitDigits rest
    | _ => ([], rest)
  if whole ++ fraction = [] then none
  else (exponent? rest).map fun e => ⟨natOfDigits (whole ++ fraction), e - fraction.length⟩

/-- A name of a value that has no digits. -/
def special? (cs : List Char) : Option Float :=
  let name := cs.map Char.toLower
  if name = "inf".toList ∨ name = "infinity".toList then some infinity
  else if name = "nan".toList then some (0.0 / 0.0)
  else none

/-- The number that a numeral denotes, rounded to the nearest float. -/
def value? (cs : List Char) : Option Float :=
  let (negative, rest) := splitSign cs
  let magnitude := (special? rest).or ((decimal? rest).map Decimal.toFloat)
  magnitude.map fun x => if negative then -x else x

end Numeral

end MapLabel.Number
