import MapLabel.Geometry.Envelope
import MapLabel.Placement.Source
/-!
Trying the candidates of a source one after the other.

The renderer asks for the next candidate until one fits or none is left. What the cursor knows of the
map, the scale and the boxes placed so far, belongs to the renderer, and moving on does not touch it.
-/

namespace MapLabel

namespace Cursor

/-- Where a cursor stands. -/
inductive State where
  | unstarted
  | positioned (index : Nat)
  /-- Past the last candidate, for good. -/
  | exhausted
deriving DecidableEq, Repr

namespace State

def text : State → String
  | unstarted => "unstarted"
  | positioned index => s!"positioned at alternative {index}"
  | exhausted => "exhausted"

def index? : State → Option Nat
  | positioned index => some index
  | _ => none

end State

/-- A cursor was asked for its candidate while it stood on none. -/
structure NotPositioned where
  state : State
deriving DecidableEq, Repr

namespace NotPositioned

def message (e : NotPositioned) : String := s!"No current placement alternative: iterator is {e.state.text}"

end NotPositioned

end Cursor

/-- A cursor over numbered candidates. -/
structure Cursor where
  /-- The candidate with a number, if there is one. -/
  candidate? : Nat → Option Placement
  state : Cursor.State := .unstarted
  current : Option Placement := none
  /-- What unscaled distances are multiplied by. -/
  scale : Float
  /-- The size of the symbol that the label belongs to. -/
  dimensions : Option Dimensions
  collectExtents : Bool := false
  extents : Envelope := ∅
  /-- Boxes to keep clear of. -/
  additionalBoxes : List Envelope := []
  /-- The boxes placed so far. -/
  envelopes : List Envelope := []

namespace Cursor

/-- A cursor in front of the first candidate of a source. -/
def ofSource {σ : Type} [CandidateSource σ] (source : σ) (scale : Float)
    (dimensions : Option Dimensions) : Cursor :=
  { candidate? := CandidateSource.candidate? source, scale, dimensions }

/-- The number of the candidate to try next. -/
def State.upcoming? : State → Option Nat
  | unstarted => some 0
  | positioned index => some (index + 1)
  | exhausted => none

/-- Moves on. The answer is whether there was a further candidate. -/
def next (c : Cursor) : Bool × Cursor :=
  match c.state.upcoming? with
  | none => (false, c)
  | some i =>
    match c.candidate? i with
    | some p => (true, { c with state := .positioned i, current := some p })
    | none => (false, { c with state := .exhausted, current := none })

/-- The candidate on which the cursor stands. -/
def placement (c : Cursor) : Except NotPositioned Placement :=
  match c.current with
  | some p => .ok p
  | none => .error ⟨c.state⟩

/-! ## The current candidate at the scale of the map -/

def labelSpacing (c : Cursor) : Except NotPositioned Float := return (← c.placement).labelSpacing * c.scale

def minimumDistance (c : Cursor) : Except NotPositioned Float :=
  return (← c.placement).minimumDistance * c.scale

def minimumPadding (c : Cursor) : Except NotPositioned Float :=
  return (← c.placement).minimumPadding * c.scale

def displacement (c : Cursor) : Except NotPositioned Displacement :=
  return (← c.placement).displacement.scaled c.scale

/-- The label of a feature as the current candidate has it. -/
def label (c : Cursor) (f : Feature) : Except NotPositioned Label := return (← c.placement).label f

/-! ## Boxes -/

/-- Adds a box to keep clear of. -/
def addBox (c : Cursor) (b : Envelope) : Cursor := { c with additionalBoxes := c.additionalBoxes ++ [b] }

/-- Places a box, unless it meets one to keep clear of. -/
def place (c : Cursor) (b : Envelope) : Bool × Cursor :=
  if c.additionalBoxes.any (·.intersects b) then (false, c)
  else (true, { c with extents := c.extents.join b, envelopes := c.envelopes ++ [b] })

/-! ## What belongs to the renderer -/

/-- The part of a cursor that the renderer writes. -/
structure Board where
  scale : Float
  dimensions : Option Dimensions
  collectExtents : Bool
  extents : Envelope
  additionalBoxes : List Envelope
  envelopes : List Envelope

def board (c : Cursor) : Board where
  scale := c.scale
  dimensions := c.dimensions
  collectExtents := c.collectExtents
  extents := c.extents
  additionalBoxes := c.additionalBoxes
  envelopes := c.envelopes

def withBoard (c : Cursor) (b : Board) : Cursor :=
  { c with
    scale := b.scale
    dimensions := b.dimensions
    collectExtents := b.collectExtents
    extents := b.extents
    additionalBoxes := b.additionalBoxes
    envelopes := b.envelopes }

/-! ## Calls one after the other -/

inductive Query where
  | state
  | index
  | placement
  | labelSpacing
  | minimumDistance
  | minimumPadding
  | displacement
  | label (f : Feature)

inductive Reply where
  | moved (found : Bool)
  | written
  | state (s : State)
  | index (i : Option Nat)
  | placement (r : Except NotPositioned Placement)
  | number (r : Except NotPositioned Float)
  | displacement (r : Except NotPositioned Displacement)
  | label (r : Except NotPositioned Label)

inductive Call where
  | next
  /-- Any change to what belongs to the renderer, of one value or of several. -/
  | write (change : Board → Board)
  | ask (q : Query)

def answer (c : Cursor) : Query → Reply
  | .state => .state c.state
  | .index => .index c.state.index?
  | .placement => .placement c.placement
  | .labelSpacing => .number c.labelSpacing
  | .minimumDistance => .number c.minimumDistance
  | .minimumPadding => .number c.minimumPadding
  | .displacement => .displacement c.displacement
  | .label f => .label (c.label f)

def perform (c : Cursor) : Call → Reply × Cursor
  | .next => (.moved c.next.1, c.next.2)
  | .write change => (.written, c.withBoard (change c.board))
  | .ask q => (c.answer q, c)

/-- The replies to calls made one after the other, and the cursor after them. -/
def run (c : Cursor) : List Call → List Reply × Cursor
  | [] => ([], c)
  | call :: calls => ((c.perform call).1 :: (run (c.perform call).2 calls).1, (run (c.perform call).2 calls).2)

end Cursor

end MapLabel
