import MapLabel.Config.Style
import MapLabel.Placement.Candidates
/-!
Placements, placement patches and lists of candidates in style files. Content and orientation have no
place in a style file: they are neither read nor written.
-/

namespace MapLabel.Config

open Codec

def displacement : Codec Displacement :=
  let pair := numberPair "dx" "dy"
  { read := fun v => do let (dx, dy) ← pair.read v; return ⟨dx, dy⟩
    write := fun d => pair.write (d.dx, d.dy) }

def dimensions : Codec Dimensions :=
  let pair := numberPair "width" "height"
  { read := fun v => do let (width, height) ← pair.read v; return ⟨width, height⟩
    write := fun d => pair.write (d.width, d.height) }

/-- The fields of a placement. -/
def placementFields : List (Field Placement) :=
  [.of Placement.Field.style.key style (·.style) fun x p => { p with style := x },
    .of Placement.Field.displacement.key displacement (·.displacement)
      fun x p => { p with displacement := x },
    .of Placement.Field.attachment.key choice (·.attachment) fun x p => { p with attachment := x },
    .of Placement.Field.horizontalAlignment.key choice (·.horizontalAlignment)
      fun x p => { p with horizontalAlignment := x },
    .of Placement.Field.verticalAlignment.key choice (·.verticalAlignment)
      fun x p => { p with verticalAlignment := x },
    .of Placement.Field.justification.key choice (·.justification)
      fun x p => { p with justification := x },
    .of Placement.Field.labelSpacing.key float (·.labelSpacing) fun x p => { p with labelSpacing := x },
    .of Placement.Field.labelPositionTolerance.key float (·.labelPositionTolerance)
      fun x p => { p with labelPositionTolerance := x },
    .of Placement.Field.avoidEdges.key bool (·.avoidEdges) fun x p => { p with avoidEdges := x },
    .of Placement.Field.minimumDistance.key float (·.minimumDistance)
      fun x p => { p with minimumDistance := x },
    .of Placement.Field.minimumPadding.key float (·.minimumPadding)
      fun x p => { p with minimumPadding := x },
    .of Placement.Field.minimumPathLength.key float (·.minimumPathLength)
      fun x p => { p with minimumPathLength := x },
    .of Placement.Field.maxCharAngleDelta.key float (·.maxCharAngleDelta)
      fun x p => { p with maxCharAngleDelta := x },
    .of Placement.Field.forceOddLabels.key bool (·.forceOddLabels)
      fun x p => { p with forceOddLabels := x },
    .of Placement.Field.allowOverlap.key bool (·.allowOverlap) fun x p => { p with allowOverlap := x },
    .of Placement.Field.textRatio.key float (·.textRatio) fun x p => { p with textRatio := x },
    .of Placement.Field.wrapWidth.key float (·.wrapWidth) fun x p => { p with wrapWidth := x }]

def placement : Codec Placement := record placementFields {}

/-- The key of the style patch in a placement patch. -/
def stylePatchKey : String := "format"

/-- The fields of a placement patch. -/
def placementPatchFields : List (Field Placement.Patch) :=
  [.of stylePatchKey stylePatch (·.style) fun x a => { a with style := x },
    .of Placement.Field.displacement.key (option displacement) (·.displacement)
      fun x a => { a with displacement := x },
    .of Placement.Field.attachment.key (option choice) (·.attachment)
      fun x a => { a with attachment := x },
    .of Placement.Field.horizontalAlignment.key (option choice) (·.horizontalAlignment)
      fun x a => { a with horizontalAlignment := x },
    .of Placement.Field.verticalAlignment.key (option choice) (·.verticalAlignment)
      fun x a => { a with verticalAlignment := x },
    .of Placement.Field.justification.key (option choice) (·.justification)
      fun x a => { a with justification := x },
    .of Placement.Field.labelSpacing.key (option float) (·.labelSpacing)
      fun x a => { a with labelSpacing := x },
    .of Placement.Field.labelPositionTolerance.key (option float) (·.labelPositionTolerance)
      fun x a => { a with labelPositionTolerance := x },
    .of Placement.Field.avoidEdges.key (option bool) (·.avoidEdges)
      fun x a => { a with avoidEdges := x },
    .of Placement.Field.minimumDistance.key (option float) (·.minimumDistance)
      fun x a => { a with minimumDistance := x },
    .of Placement.Field.minimumPadding.key (option float) (·.minimumPadding)
      fun x a => { a with minimumPadding := x },
    .of Placement.Field.minimumPathLength.key (option float) (·.minimumPathLength)
      fun x a => { a with minimumPathLength := x },
    .of Placement.Field.maxCharAngleDelta.key (option float) (·.maxCharAngleDelta)
      fun x a => { a with maxCharAngleDelta := x },
    .of Placement.Field.forceOddLabels.key (option bool) (·.forceOddLabels)
      fun x a => { a with forceOddLabels := x },
    .of Placement.Field.allowOverlap.key (option bool) (·.allowOverlap)
      fun x a => { a with allowOverlap := x },
    .of Placement.Field.textRatio.key (option float) (·.textRatio)
      fun x a => { a with textRatio := x },
    .of Placement.Field.wrapWidth.key (option float) (·.wrapWidth)
      fun x a => { a with wrapWidth := x }]

def placementPatch : Codec Placement.Patch := record placementPatchFields ∅

/-- Lists of candidates as they stand in the file, not checked. -/
def rawCandidates : Codec Candidates :=
  record
    [.of "defaults" placement (·.defaults) fun x c => { c with defaults := x },
      .of "alternatives" (list placementPatch) (·.patches) fun x c => { c with patches := x }]
    .default

/-- Lists of candidates, which are checked once they are read. -/
def candidates : Codec Candidates where
  read v := do
    let raw ← rawCandidates.read v
    (Candidates.ofPatches raw.defaults raw.patches).mapError .placement
  write := rawCandidates.write

end MapLabel.Config
