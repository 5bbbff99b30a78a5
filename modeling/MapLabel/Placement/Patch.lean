import MapLabel.Placement.Basic
/-!
Sparse changes to a placement. What a patch leaves unset is taken from the placement below it, the
style field by field.
-/

namespace MapLabel

/-- The fields to change in a placement. -/
structure Placement.Patch where
  content : Option Content := none
  style : Style.Patch := ∅
  orientation : Option Expression := none
  displacement : Option Displacement := none
  attachment : Option Attachment := none
  horizontalAlignment : Option HorizontalAlignment := none
  verticalAlignment : Option VerticalAlignment := none
  justification : Option Justification := none
  labelSpacing : Option Float := none
  labelPositionTolerance : Option Float := none
  avoidEdges : Option Bool := none
  minimumDistance : Option Float := none
  minimumPadding : Option Float := none
  minimumPathLength : Option Float := none
  maxCharAngleDelta : Option Float := none
  forceOddLabels : Option Bool := none
  allowOverlap : Option Bool := none
  textRatio : Option Float := none
  wrapWidth : Option Float := none
deriving Repr

namespace Placement.Patch

instance : EmptyCollection Patch := ⟨{}⟩
instance : Inhabited Patch := ⟨∅⟩

/-- The placement with the fields of the patch replaced. -/
def applyTo (a : Patch) (p : Placement) : Placement where
  content := a.content.or p.content
  style := a.style.applyTo p.style
  orientation := a.orientation.or p.orientation
  displacement := a.displacement.getD p.displacement
  attachment := a.attachment.getD p.attachment
  horizontalAlignment := a.horizontalAlignment.getD p.horizontalAlignment
  verticalAlignment := a.verticalAlignment.getD p.verticalAlignment
  justification := a.justification.getD p.justification
  labelSpacing := a.labelSpacing.getD p.labelSpacing
  labelPositionTolerance := a.labelPositionTolerance.getD p.labelPositionTolerance
  avoidEdges := a.avoidEdges.getD p.avoidEdges
  minimumDistance := a.minimumDistance.getD p.minimumDistance
  minimumPadding := a.minimumPadding.getD p.minimumPadding
  minimumPathLength := a.minimumPathLength.getD p.minimumPathLength
  maxCharAngleDelta := a.maxCharAngleDelta.getD p.maxCharAngleDelta
  forceOddLabels := a.forceOddLabels.getD p.forceOddLabels
  allowOverlap := a.allowOverlap.getD p.allowOverlap
  textRatio := a.textRatio.getD p.textRatio
  wrapWidth := a.wrapWidth.getD p.wrapWidth

/-- The patch with the text size set as well. -/
def withTextSize (a : Patch) (size : Float) : Patch :=
  { a with style := { a.style with textSize := some size } }

/-- The checks of a patch beside those of its style, in the order in which faults are reported. -/
def checks (a : Patch) : List (Field × Option Fault) :=
  [(.displacement, a.displacement.bind fun d => Fault.ofNumber d.dx),
    (.displacement, a.displacement.bind fun d => Fault.ofNumber d.dy),
    (.labelSpacing, a.labelSpacing.bind Fault.ofDistance),
    (.labelPositionTolerance, a.labelPositionTolerance.bind Fault.ofDistance),
    (.minimumDistance, a.minimumDistance.bind Fault.ofDistance),
    (.minimumPadding, a.minimumPadding.bind Fault.ofDistance),
    (.minimumPathLength, a.minimumPathLength.bind Fault.ofDistance),
    (.maxCharAngleDelta, a.maxCharAngleDelta.bind Fault.ofDistance),
    (.textRatio, a.textRatio.bind Fault.ofDistance),
    (.wrapWidth, a.wrapWidth.bind Fault.ofDistance)]

/-- Fails with the first fault of the style patch or else with that of the placement patch. -/
def validate (a : Patch) : Except PlacementError Unit :=
  match a.style.validate with
  | .error e => .error (.style e)
  | .ok _ =>
    match Fault.first? a.checks with
    | some (field, fault) => .error (.property field fault)
    | none => .ok ()

/-- A patch is valid when every value that it sets is usable. -/
def Valid (a : Patch) : Prop := a.style.Valid ∧ Fault.first? a.checks = none

instance (a : Patch) : Decidable a.Valid := inferInstanceAs (Decidable (_ ∧ _))

/-- Adds the expressions that the patch brings in to a set. -/
def collect (a : Patch) (s : ExpressionSet) : ExpressionSet := collectFrom a.orientation a.content s

end Placement.Patch

end MapLabel
