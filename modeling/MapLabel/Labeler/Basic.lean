import MapLabel.Placement.Candidates
/-!
Labelers: what a map layer uses to label its features. A labeler has one source of candidates, and
editing it means replacing the defaults of that source.
-/

namespace MapLabel.Labeler

/-- The source of a labeler with one text in one font. -/
def sourceOfName (name : Expression) (faceName : String) (textSize : Float) (fill : Color) :
    Except PlacementError Candidates :=
  Candidates.single { content := some (.text name), style := .ofFont faceName textSize fill }

variable {σ : Type} [CandidateSource σ]

/-- The default style of a source. -/
def style (source : σ) : Style := (CandidateSource.defaults source).style

/-- Every expression that a source reads. -/
def expressions (source : σ) : ExpressionSet := CandidateSource.collect source ∅

/-- The defaults of a source with another style. -/
def restyled (source : σ) (s : Style) : Placement := { CandidateSource.defaults source with style := s }

/-- The text of the default content of a feature, in the default style, if there is content. -/
def defaultText? (source : σ) (f : Feature) : Option String :=
  let p := CandidateSource.defaults source
  p.content.map fun _ => (p.label f).text

/-! ## Editing a source of one's own -/

/-- The source with its defaults replaced. A refused edit leaves it as it was. -/
def edit (source : σ) (p : Placement) : Except PlacementError Unit × σ :=
  match CandidateSource.setDefaults source p with
  | (.ok _, source') => (.ok (), source')
  | (.error e, _) => (.error e, source)

/-- The source with its default style replaced. The style is checked before anything else. -/
def editStyle (source : σ) (s : Style) : Except PlacementError Unit × σ :=
  match s.validate with
  | .error e => (.error (.style e), source)
  | .ok _ => edit source (restyled source s)

end MapLabel.Labeler
