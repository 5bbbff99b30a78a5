/-!
Offsets of a label from its anchor point, and the size of the symbol it belongs to.
-/

namespace MapLabel

/-- An offset in unscaled units. -/
structure Displacement where
  dx : Float
  dy : Float
deriving DecidableEq, Repr

namespace Displacement

def zero : Displacement := ⟨0, 0⟩

instance : Inhabited Displacement := ⟨zero⟩

/-- Both components compared as numbers. -/
instance : BEq Displacement where
  beq d e := d.dx == e.dx && d.dy == e.dy

def scaled (d : Displacement) (factor : Float) : Displacement := ⟨d.dx * factor, d.dy * factor⟩

end Displacement

/-- The size of a symbol. -/
structure Dimensions where
  width : Float
  height : Float
deriving DecidableEq, Repr

end MapLabel
