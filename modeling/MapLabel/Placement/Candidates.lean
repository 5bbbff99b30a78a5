import MapLabel.Placement.Patch
import MapLabel.Placement.Source
/-!
A list of candidates, each given by what it changes in common defaults.

Whatever enters the list is checked first, so every candidate is usable, and what is refused leaves
the list as it was.
-/

namespace MapLabel

/-- Defaults and the candidates that are tried in order. -/
structure Candidates where
  defaults : Placement
  patches : List Placement.Patch

namespace Candidates

/-- The defaults of a style file, without candidates. -/
def default : Candidates := ⟨{}, []⟩

/-- One candidate that is the default placement. -/
def defaultSingle : Candidates := ⟨{}, [∅]⟩

/-- Given defaults, without candidates. -/
def ofDefaults (p : Placement) : Except PlacementError Candidates := do
  p.validate
  return ⟨p, []⟩

/-- Given defaults, with one candidate that equals them. -/
def single (p : Placement) : Except PlacementError Candidates := do
  p.validate
  return ⟨p, [∅]⟩

/-- Adds a candidate at the end of the list. -/
def push (c : Candidates) (a : Placement.Patch) : Except PlacementError Unit × Candidates := editing c do
  a.validate
  modify fun c => { c with patches := c.patches ++ [a] }

/-- Defaults and candidates, of which the first invalid one is reported. -/
def ofPatches (p : Placement) (patches : List Placement.Patch) : Except PlacementError Candidates := do
  patches.foldlM (fun c a => edited (c.push a)) (← ofDefaults p)

/-- Fails with the first fault of the defaults or else of a candidate. -/
def validate (c : Candidates) : Except PlacementError Unit := do
  c.defaults.validate
  c.patches.forM Placement.Patch.validate

def size (c : Candidates) : Nat := c.patches.length

def isEmpty (c : Candidates) : Bool := c.patches.isEmpty

/-- Replaces the defaults. -/
def setDefaults (c : Candidates) (p : Placement) : Except PlacementError Unit × Candidates := editing c do
  p.validate
  modify fun c => { c with defaults := p }

/-- Replaces the style of the defaults. -/
def setStyle (c : Candidates) (s : Style) : Except PlacementError Unit × Candidates := editing c do
  s.validate.mapError PlacementError.style
  modify fun c => { c with defaults := { c.defaults with style := s } }

/-- The placement that a candidate amounts to. -/
def resolve? (c : Candidates) (i : Nat) : Option Placement := c.patches[i]?.map (·.applyTo c.defaults)

/-- Adds every expression of the defaults and of the candidates to a set. -/
def collect (c : Candidates) (s : ExpressionSet) : ExpressionSet :=
  c.patches.foldl (fun s a => a.collect s) (c.defaults.collect s)

instance : CandidateSource Candidates where
  defaults := defaults
  setDefaults := setDefaults
  candidate? := resolve?
  count? c := some c.size
  collect := collect

/-! ## Edits one after the other -/

inductive Edit where
  | push (a : Placement.Patch)
  | setDefaults (p : Placement)
  | setStyle (s : Style)

/-- The outcome of an edit, and the list after it. -/
def Edit.apply (c : Candidates) : Edit → Except PlacementError Unit × Candidates
  | .push a => c.push a
  | .setDefaults p => c.setDefaults p
  | .setStyle s => c.setStyle s

/-- Edits in their order, each with its outcome. -/
abbrev Log : Type := List (Edit × Except PlacementError Unit)

/-- Makes the edits one after the other, whatever becomes of them. -/
def run (c : Candidates) : List Edit → Log × Candidates
  | [] => ([], c)
  | e :: es => ((e, (e.apply c).1) :: (run (e.apply c).2 es).1, (run (e.apply c).2 es).2)

/-- Pushes candidates one by one up to the first that is refused. Yields the last outcome and the list as it is
then. -/
def pushEach (c : Candidates) : List Placement.Patch → Except PlacementError Unit × Candidates
  | [] => (.ok (), c)
  | a :: patches =>
    match c.push a with
    | (.ok _, d) => d.pushEach patches
    | (.error err, d) => (.error err, d)

/-- A list of given defaults into which candidates are pushed one by one. -/
def grow (p : Placement) (patches : List Placement.Patch) : Except PlacementError Candidates := do
  let c ← ofDefaults p
  match c.pushEach patches with
  | (.ok _, d) => return d
  | (.error err, _) => throw err

end Candidates

/-- The sources of candidates that a style file can name. -/
inductive AnySource where
  | candidates (c : Candidates)
  | zigzag (z : Zigzag)
  | shrinking (s : Shrinking)

instance : CandidateSource AnySource where
  defaults
    | .candidates c => c.defaults
    | .zigzag z => z.defaults
    | .shrinking s => s.defaults
  setDefaults
    | .candidates c, p => Prod.map id .candidates (CandidateSource.setDefaults c p)
    | .zigzag z, p => Prod.map id .zigzag (CandidateSource.setDefaults z p)
    | .shrinking s, p => Prod.map id .shrinking (CandidateSource.setDefaults s p)
  candidate?
    | .candidates c => c.resolve?
    | .zigzag z => z.candidate?
    | .shrinking s => s.candidate?
  count?
    | .candidates c => some c.size
    | .zigzag z => CandidateSource.count? z
    | .shrinking s => CandidateSource.count? s
  collect
    | .candidates c => c.collect
    | .zigzag z => CandidateSource.collect z
    | .shrinking s => CandidateSource.collect s

end MapLabel
