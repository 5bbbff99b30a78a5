/-!
Decimals `digits * 10 ^ exponent`, and the shortest one that reads back as a given float.

A float stands for every real that rounds to it. Among the decimals in that interval
`Magnitude.shortest` takes one with the fewest digits, of those the nearest, and of two equally near
ones the larger.
-/

namespace MapLabel.Number

/-- The number `digits * 10 ^ exponent`. -/
structure Decimal where
  digits : Nat
  exponent : Int
deriving DecidableEq, Repr

/-- The number of decimal digits of `n`, where zero has one. -/
def digitCount (n : Nat) : Nat := (Nat.toDigits 10 n).length

namespace Decimal

/-- The digits and the number of them that stand before the decimal point. -/
def positional (d : Decimal) : List Char × Int :=
  let ds := Nat.toDigits 10 d.digits
  (ds, ds.length + d.exponent)

/-- Writes the number out in full, without an exponent. -/
def text (d : Decimal) : String :=
  let (ds, point) := d.positional
  if point ≤ 0 then
    String.ofList ("0.".toList ++ List.replicate (-point).toNat '0' ++ ds)
  else if ds.length ≤ point.toNat then
    String.ofList (ds ++ List.replicate (point.toNat - ds.length) '0')
  else
    String.ofList (ds.take point.toNat ++ '.' :: ds.drop point.toNat)

end Decimal

/-- A finite positive float `mantissa * 2 ^ exponent`. At the bottom of a binade the next float below
is only half as far away as the next one above. -/
structure Magnitude where
  mantissa : Nat
  exponent : Int
  bottom : Bool
deriving DecidableEq, Repr

namespace Magnitude

/-- The absolute value of a finite float. -/
def ofFloat (x : Float) : Magnitude :=
  let bits := x.toBits.toNat
  let fraction := bits % Nat.pow 2 52
  let power : Nat := bits / Nat.pow 2 52 % Nat.pow 2 11
  if power = 0 then ⟨fraction, -1074, false⟩
  else ⟨fraction + Nat.pow 2 52, power - 1075, fraction = 0 ∧ 1 < power⟩

/-- The value and the two ends of its interval, as numerators over one denominator. -/
structure Interval where
  low : Nat
  value : Nat
  high : Nat
  denominator : Nat
  /-- Whether the ends themselves round to the value. -/
  closed : Bool

/-- The reals that round to `x`, ties going to the even mantissa. -/
def interval (x : Magnitude) : Interval :=
  -- quarters of a unit in the last place
  let shift := x.exponent - 2
  let unit := Nat.pow 2 shift.toNat
  { low := (4 * x.mantissa - if x.bottom then 1 else 2) * unit
    value := 4 * x.mantissa * unit
    high := (4 * x.mantissa + 2) * unit
    denominator := Nat.pow 2 (-shift).toNat
    closed := x.mantissa % 2 = 0 }

namespace Interval

/-- The power of ten just above the value: the least `p` with `value < 10 ^ p`. -/
def decade (i : Interval) : Int :=
  if i.denominator ≤ i.value then digitCount (i.value / i.denominator)
  else 1 - digitCount ((i.denominator - 1) / i.value)

/-- Whether `n / d` lies in the interval. -/
def holds (i : Interval) (n d : Nat) : Bool :=
  let low := i.low * d
  let high := i.high * d
  let point := n * i.denominator
  if i.closed then low ≤ point ∧ point ≤ high else low < point ∧ point < high

/-- The decimal on the grid of `10 ^ e` that lies in the interval nearest to its value. The two
neighbours of the value on the grid are the only candidates. -/
def onGrid? (i : Interval) (e : Int) : Option Decimal :=
  let num := Nat.pow 10 e.toNat
  let den := Nat.pow 10 (-e).toNat
  -- the value is `scaled / step` grid steps
  let scaled := i.value * den
  let step := i.denominator * num
  let below := scaled / step
  let takes (n : Nat) := i.holds (n * num) den
  let upper := step ≤ 2 * (scaled % step)
  match takes below, takes (below + 1) with
  | true, true => some ⟨if upper then below + 1 else below, e⟩
  | true, false => some ⟨below, e⟩
  | false, true => some ⟨below + 1, e⟩
  | false, false => none

end Interval

/-- A decimal of fewest digits that rounds to `x`. Seventeen digits always suffice. -/
def shortest (x : Magnitude) : Decimal :=
  let i := x.interval
  let p := i.decade
  match (List.range 17).findSome? fun k => i.onGrid? (p - (k + 1 : Nat)) with
  -- nine, rounded up on the coarsest grid, is ten
  | some d => if d.digits = 10 then ⟨1, p⟩ else d
  | none => ⟨0, 0⟩

end Magnitude

end MapLabel.Number
