import MapLabel.Choice
/-!
How a label sits on its geometry.
-/

namespace MapLabel

/-- What a label is attached to. -/
inductive Attachment where
  | line
  /-- One anchor point. -/
  | point
  | vertex
  /-- A point inside the polygon. -/
  | interior
deriving DecidableEq, Repr

/-- Where the label stands relative to its anchor, from top to bottom. -/
inductive VerticalAlignment where
  | top
  | middle
  | bottom
  /-- As the displacement suggests. -/
  | auto
deriving DecidableEq, Repr

/-- Where the label stands relative to its anchor, from left to right. -/
inductive HorizontalAlignment where
  | left
  | middle
  | right
  /-- As the displacement suggests. -/
  | auto
deriving DecidableEq, Repr

/-- How the lines of a wrapped label are aligned. -/
inductive Justification where
  | left
  | middle
  | right
deriving DecidableEq, Repr

instance : Choice Attachment where
  values := [.line, .point, .vertex, .interior]
  name
    | .line => "line"
    | .point => "point"
    | .vertex => "vertex"
    | .interior => "interior"
  constant?
    | .line => some "LINE_PLACEMENT"
    | .point => some "POINT_PLACEMENT"
    | .vertex => some "VERTEX_PLACEMENT"
    | .interior => some "INTERIOR_PLACEMENT"
  unknown := .unknownChoice "label_placement"

instance : Choice VerticalAlignment where
  values := [.top, .middle, .bottom, .auto]
  name
    | .top => "top"
    | .middle => "middle"
    | .bottom => "bottom"
    | .auto => "auto"
  constant?
    | .top => some "TOP"
    | .middle => some "MIDDLE"
    | .bottom => some "BOTTOM"
    | .auto => some "AUTO"
  unknown := .unknownChoice "vertical_alignment"

instance : Choice HorizontalAlignment where
  values := [.left, .middle, .right, .auto]
  name
    | .left => "left"
    | .middle => "middle"
    | .right => "right"
    | .auto => "auto"
  constant?
    | .left => some "LEFT"
    | .middle => some "MIDDLE"
    | .right => some "RIGHT"
    | .auto => some "AUTO"
  unknown := .unknownChoice "horizontal_alignment"

instance : Choice Justification where
  values := [.left, .middle, .right]
  name
    | .left => "left"
    | .middle => "middle"
    | .right => "right"
  constant?
    | .left => some "LEFT"
    | .middle => some "MIDDLE"
    | .right => some "RIGHT"
  unknown := .unknownChoice "justify_alignment"

instance : Inhabited Attachment := ⟨.point⟩
instance : Inhabited VerticalAlignment := ⟨.auto⟩
instance : Inhabited HorizontalAlignment := ⟨.auto⟩
instance : Inhabited Justification := ⟨.middle⟩

end MapLabel
