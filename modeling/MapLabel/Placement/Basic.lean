import MapLabel.Geometry.Displacement
import MapLabel.Label.Content
import MapLabel.Placement.Position
/-!
Everything that one attempt to place a label needs to know: its content, its style, and where and how
densely it may stand. Distances are in unscaled units.
-/

namespace MapLabel

/-- The parameters of one placement, all of them settled. -/
structure Placement where
  /-- Without content the label is empty. -/
  content : Option Content := none
  /-- The style that the content starts from. -/
  style : Style := {}
  /-- The rotation in degrees, evaluated on the feature. -/
  orientation : Option Expression := none
  displacement : Displacement := .zero
  attachment : Attachment := .point
  horizontalAlignment : HorizontalAlignment := .auto
  verticalAlignment : VerticalAlignment := .auto
  justification : Justification := .middle
  /-- The distance at which a label is repeated along a line, where zero means never. -/
  labelSpacing : Float := 0
  labelPositionTolerance : Float := 0
  avoidEdges : Bool := false
  minimumDistance : Float := 0
  minimumPadding : Float := 0
  minimumPathLength : Float := 0
  /-- The greatest angle between neighbouring characters on a line, in degrees. -/
  maxCharAngleDelta : Float := 22.5
  forceOddLabels : Bool := false
  allowOverlap : Bool := false
  textRatio : Float := 0
  /-- The width beyond which text is wrapped, where zero means never. -/
  wrapWidth : Float := 0
deriving Repr

namespace Placement

instance : Inhabited Placement := ⟨{}⟩

/-- The fields of a placement that a style file holds. -/
inductive Field where
  | style
  | displacement
  | attachment
  | horizontalAlignment
  | verticalAlignment
  | justification
  | labelSpacing
  | labelPositionTolerance
  | avoidEdges
  | minimumDistance
  | minimumPadding
  | minimumPathLength
  | maxCharAngleDelta
  | forceOddLabels
  | allowOverlap
  | textRatio
  | wrapWidth
deriving DecidableEq, Repr

namespace Field

/-- The key in style files. -/
def key : Field → String
  | style => "default_format"
  | displacement => "displacement"
  | attachment => "label_placement"
  | horizontalAlignment => "horizontal_alignment"
  | verticalAlignment => "vertical_alignment"
  | justification => "justify_alignment"
  | labelSpacing => "label_spacing"
  | labelPositionTolerance => "label_position_tolerance"
  | avoidEdges => "avoid_edges"
  | minimumDistance => "minimum_distance"
  | minimumPadding => "minimum_padding"
  | minimumPathLength => "minimum_path_length"
  | maxCharAngleDelta => "max_char_angle_delta"
  | forceOddLabels => "force_odd_labels"
  | allowOverlap => "allow_overlap"
  | textRatio => "text_ratio"
  | wrapWidth => "wrap_width"

end Field

/-- The checks of a placement beside those of its style, in the order in which faults are reported. -/
def checks (p : Placement) : List (Field × Option Fault) :=
  [(.displacement, Fault.ofNumber p.displacement.dx),
    (.displacement, Fault.ofNumber p.displacement.dy),
    (.labelSpacing, Fault.ofDistance p.labelSpacing),
    (.labelPositionTolerance, Fault.ofDistance p.labelPositionTolerance),
    (.minimumDistance, Fault.ofDistance p.minimumDistance),
    (.minimumPadding, Fault.ofDistance p.minimumPadding),
    (.minimumPathLength, Fault.ofDistance p.minimumPathLength),
    (.maxCharAngleDelta, Fault.ofDistance p.maxCharAngleDelta),
    (.textRatio, Fault.ofDistance p.textRatio),
    (.wrapWidth, Fault.ofDistance p.wrapWidth)]

end Placement

/-- A placement, or a patch to one, with an unusable value. -/
inductive PlacementError where
  | property (field : Placement.Field) (fault : Fault)
  | style (e : StyleError)
deriving DecidableEq, Repr

namespace PlacementError

def message : PlacementError → String
  | property field fault => s!"Invalid value for placement property '{field.key}': {fault.message}"
  | style e => e.message

end PlacementError

namespace Placement

/-- Fails with the first fault of the style or else with that of the placement. -/
def validate (p : Placement) : Except PlacementError Unit :=
  match p.style.validate with
  | .error e => .error (.style e)
  | .ok _ =>
    match Fault.first? p.checks with
    | some (field, fault) => .error (.property field fault)
    | none => .ok ()

/-- A placement is valid when its style is and every number in it is usable. -/
def Valid (p : Placement) : Prop := p.style.Valid ∧ Fault.first? p.checks = none

instance (p : Placement) : Decidable p.Valid := inferInstanceAs (Decidable (_ ∧ _))

/-- The label of a feature, added to one that is already there. -/
def labelInto (p : Placement) (f : Feature) (l : Label) : Label :=
  match p.content with
  | some c => c.render p.style f l
  | none => l

/-- The label of a feature. -/
def label (p : Placement) (f : Feature) : Label := p.labelInto f ∅

/-- The rotation of a feature's label in degrees. -/
def angle (p : Placement) (f : Feature) : Except EvalError Float :=
  match p.orientation with
  | some e => e.evaluateNumber f
  | none => .ok 0

/-- Adds an orientation and the expressions of a content to a set. -/
def collectFrom (orientation : Option Expression) (content : Option Content) (s : ExpressionSet) :
    ExpressionSet :=
  let s := match orientation with
    | some e => s.insert e
    | none => s
  match content with
  | some c => c.collect s
  | none => s

/-- Adds every expression of the placement to a set. -/
def collect (p : Placement) (s : ExpressionSet) : ExpressionSet :=
  collectFrom p.orientation p.content s

end Placement

end MapLabel
