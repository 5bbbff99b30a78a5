import MapLabel.Choice
import MapLabel.Color
import MapLabel.Config.Codec
import MapLabel.Config.Placement
import MapLabel.Config.Style
import MapLabel.Config.Value
import MapLabel.Editing
import MapLabel.Expression.Basic
import MapLabel.Expression.Collection
import MapLabel.Expression.Parser
import MapLabel.Expression.Printer
import MapLabel.Fault
import MapLabel.Feature
import MapLabel.Geometry.Displacement
import MapLabel.Geometry.Envelope
import MapLabel.Label.Basic
import MapLabel.Label.Content
import MapLabel.Labeler.Basic
import MapLabel.Labeler.Sharing
import MapLabel.Number.Compare
import MapLabel.Number.Decimal
import MapLabel.Number.Numeral
import MapLabel.Number.Text
import MapLabel.Placement.Basic
import MapLabel.Placement.Candidates
import MapLabel.Placement.Cursor
import MapLabel.Placement.Patch
import MapLabel.Placement.Position
import MapLabel.Placement.Source
import MapLabel.Style.Basic
import MapLabel.Style.Patch
import MapLabel.Text.Blank
import MapLabel.Text.BreakData
import MapLabel.Text.Case
import MapLabel.Text.CaseData
import MapLabel.Text.CharSet
import MapLabel.Text.Transform
import MapLabel.Text.Words
import MapLabel.ValueError
import MapLabel.Proofs.Checks
import MapLabel.Proofs.Color.Digits
import MapLabel.Proofs.Color.Hexadecimal
import MapLabel.Proofs.Config.Fields
import MapLabel.Proofs.Config.Forms
import MapLabel.Proofs.Config.Laws
import MapLabel.Proofs.Config.Records
import MapLabel.Proofs.Config.RoundTrip
import MapLabel.Proofs.Config.Sparse
import MapLabel.Proofs.Expression.Canonical
import MapLabel.Proofs.Expression.Dependency
import MapLabel.Proofs.Expression.Failure
import MapLabel.Proofs.Expression.Flattening
import MapLabel.Proofs.Expression.Grammar
import MapLabel.Proofs.Expression.Influence
import MapLabel.Proofs.Expression.Rejection
import MapLabel.Proofs.Geometry.Extents
import MapLabel.Proofs.Geometry.Overlap
import MapLabel.Proofs.Label.Collection
import MapLabel.Proofs.Label.Dependency
import MapLabel.Proofs.Label.Errors
import MapLabel.Proofs.Label.Leaves
import MapLabel.Proofs.Label.Styles
import MapLabel.Proofs.Label.Uppercase
import MapLabel.Proofs.Labeler.Owners
import MapLabel.Proofs.Labeler.Refusal
import MapLabel.Proofs.Labeler.Restyling
import MapLabel.Proofs.Labeler.Sharing
import MapLabel.Proofs.Placement.Building
import MapLabel.Proofs.Placement.Collection
import MapLabel.Proofs.Placement.Dependency
import MapLabel.Proofs.Placement.History
import MapLabel.Proofs.Placement.Layers
import MapLabel.Proofs.Placement.Numbers
import MapLabel.Proofs.Placement.Styles
import MapLabel.Proofs.Placement.Traversal
import MapLabel.Proofs.Placement.Validity
import MapLabel.Proofs.Style.Drawable
import MapLabel.Proofs.Style.Layers
import MapLabel.Proofs.Text.Capitals
