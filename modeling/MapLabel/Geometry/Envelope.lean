import MapLabel.Geometry.Displacement
import MapLabel.Number.Compare
/-!
Axis-parallel boxes that labels occupy on the map.
-/

namespace MapLabel

open Number

/-- A closed box. It is empty where a lower bound exceeds the upper one. -/
structure Envelope where
  minX : Float
  minY : Float
  maxX : Float
  maxY : Float
deriving DecidableEq, Repr

namespace Envelope

/-- The box with two given corners, in any order. -/
def ofCorners (x₀ y₀ x₁ y₁ : Float) : Envelope :=
  ⟨lesser x₀ x₁, lesser y₀ y₁, greater x₀ x₁, greater y₀ y₁⟩

/-- The box of a given size around a point. -/
def centered (x y : Float) (size : Dimensions) : Envelope :=
  let w := size.width / 2
  let h := size.height / 2
  ofCorners (x - w) (y - h) (x + w) (y + h)

/-- The box without points that any other box extends. -/
def empty : Envelope := ⟨infinity, infinity, -infinity, -infinity⟩

instance : EmptyCollection Envelope := ⟨empty⟩
instance : Inhabited Envelope := ⟨empty⟩

/-- All bounds compared as numbers. -/
instance : BEq Envelope where
  beq a b := a.minX == b.minX && a.minY == b.minY && a.maxX == b.maxX && a.maxY == b.maxY

def isEmpty (a : Envelope) : Bool := a.maxX < a.minX || a.maxY < a.minY

def width (a : Envelope) : Float := if a.isEmpty then 0 else a.maxX - a.minX

def height (a : Envelope) : Float := if a.isEmpty then 0 else a.maxY - a.minY

/-- The least box that covers two boxes. An empty one adds nothing to the first. -/
def join (a b : Envelope) : Envelope :=
  if b.isEmpty then a
  else ⟨lesser a.minX b.minX, lesser a.minY b.minY, greater a.maxX b.maxX, greater a.maxY b.maxY⟩

/-- Whether two boxes overlap or touch. -/
def intersects (a b : Envelope) : Bool :=
  !a.isEmpty && !b.isEmpty
    && a.minX ≤ b.maxX && b.minX ≤ a.maxX && a.minY ≤ b.maxY && b.minY ≤ a.maxY

/-- Whether the point lies in the box, its edges included. -/
def contains (a : Envelope) (x y : Float) : Bool :=
  a.minX ≤ x && x ≤ a.maxX && a.minY ≤ y && y ≤ a.maxY

end Envelope

end MapLabel
