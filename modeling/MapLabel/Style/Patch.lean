import MapLabel.Style.Basic
/-!
Sparse changes to a style.

A patch replaces the fields that it sets and leaves the others. It can replace a fontset by another
one but not remove it.
-/

namespace MapLabel

/-- The fields to change in a style. -/
structure Style.Patch where
  faceName : Option String := none
  fontset : Option String := none
  textSize : Option Float := none
  characterSpacing : Option Float := none
  lineSpacing : Option Float := none
  opacity : Option Float := none
  wrapChar : Option Char := none
  wrapBefore : Option Bool := none
  textTransform : Option TextTransform := none
  fill : Option Color := none
  haloFill : Option Color := none
  haloRadius : Option Float := none
deriving DecidableEq, Repr

namespace Style.Patch

instance : EmptyCollection Patch := ⟨{}⟩
instance : Inhabited Patch := ⟨∅⟩

/-- Whether the patch sets no field. -/
def isEmpty (p : Patch) : Bool := p = ∅

/-- The style with the fields of the patch replaced. -/
def applyTo (p : Patch) (s : Style) : Style where
  faceName := p.faceName.getD s.faceName
  fontset := p.fontset.or s.fontset
  textSize := p.textSize.getD s.textSize
  characterSpacing := p.characterSpacing.getD s.characterSpacing
  lineSpacing := p.lineSpacing.getD s.lineSpacing
  opacity := p.opacity.getD s.opacity
  wrapChar := p.wrapChar.getD s.wrapChar
  wrapBefore := p.wrapBefore.getD s.wrapBefore
  textTransform := p.textTransform.getD s.textTransform
  fill := p.fill.getD s.fill
  haloFill := p.haloFill.getD s.haloFill
  haloRadius := p.haloRadius.getD s.haloRadius

/-- The checks of a patch, in the order in which faults are reported. A field that is not set has no
fault. -/
def checks (p : Patch) : List (Field × Option Fault) :=
  [(.fontset, p.fontset.bind Fault.ofName),
    (.textSize, p.textSize.bind Fault.ofSize),
    (.characterSpacing, p.characterSpacing.bind Fault.ofNumber),
    (.lineSpacing, p.lineSpacing.bind Fault.ofNumber),
    (.opacity, p.opacity.bind Fault.ofOpacity),
    (.haloRadius, p.haloRadius.bind Fault.ofRadius)]

/-- Fails with the first fault of the patch. -/
def validate (p : Patch) : Except StyleError Unit :=
  match Fault.first? p.checks with
  | some (field, fault) => .error (.malformedPatch field fault)
  | none => .ok ()

/-- A patch is valid when every field that it sets has a usable value. -/
def Valid (p : Patch) : Prop := Fault.first? p.checks = none

instance (p : Patch) : Decidable p.Valid := inferInstanceAs (Decidable (_ = _))

end Style.Patch

end MapLabel
