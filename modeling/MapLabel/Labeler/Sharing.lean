import MapLabel.Labeler.Basic
/-!
Labelers that share their sources.

A source is kept in a cell with the number of its owners, which are labelers and handles. Copying a
labeler adds an owner. An edit goes to the cell itself if the labeler is its only owner, and to a copy
in a new cell otherwise, so that the other owners do not see it.
-/

namespace MapLabel

/-- A source and how many owners it has. -/
structure Cell (σ : Type) where
  source : σ
  owners : Nat

/-- All cells. A cell is known by its place in the list. -/
structure Heap (σ : Type) where
  cells : List (Cell σ) := []

namespace Heap

variable {σ : Type}

/-- The source in a cell. -/
def source? (h : Heap σ) (a : Nat) : Option σ := h.cells[a]?.map Cell.source

/-- A new cell with one owner. -/
def allocate (h : Heap σ) (source : σ) : Nat × Heap σ :=
  (h.cells.length, ⟨h.cells ++ [⟨source, 1⟩]⟩)

/-- One more owner for a cell. -/
def retain (h : Heap σ) (a : Nat) : Heap σ :=
  ⟨h.cells.modify a fun c => { c with owners := c.owners + 1 }⟩

/-- One owner less for a cell. -/
def release (h : Heap σ) (a : Nat) : Heap σ :=
  ⟨h.cells.modify a fun c => { c with owners := c.owners - 1 }⟩

variable [CandidateSource σ]

/-- Replaces the defaults of the source that the owner of a cell sees. The result is the outcome, the
cell that belongs to the owner afterwards, and the heap. -/
def edit (h : Heap σ) (a : Nat) (p : Placement) : Except PlacementError Unit × Nat × Heap σ :=
  match h.cells[a]? with
  | none => (.ok (), a, h)
  | some c =>
    let (outcome, source) := CandidateSource.setDefaults c.source p
    if c.owners = 1 then (outcome, a, ⟨h.cells.set a { c with source }⟩)
    else
      match outcome with
      | .error e => (.error e, a, h)
      | .ok _ =>
        let (b, h) := (h.release a).allocate source
        (.ok (), b, h)

end Heap

/-- Labelers by name and handles on sources, all of which own cells of one heap. -/
structure Workshop (σ : Type) where
  heap : Heap σ := {}
  labelers : List (String × Nat) := []
  handles : List Nat := []

namespace Workshop

variable {σ : Type}

/-- The cell of a labeler. -/
def address? (w : Workshop σ) (name : String) : Option Nat := w.labelers.lookup name

/-- The source of a labeler. -/
def source? (w : Workshop σ) (name : String) : Option σ := w.address? name >>= w.heap.source?

/-- The sources on which there are handles, oldest first. -/
def heldSources (w : Workshop σ) : List σ := w.handles.filterMap w.heap.source?

/-- Removes a labeler. -/
def drop (w : Workshop σ) (name : String) : Workshop σ :=
  match w.address? name with
  | none => w
  | some a =>
    { w with heap := w.heap.release a, labelers := w.labelers.filter fun l => l.1 ≠ name }

/-- Lets a labeler own a cell that already counts it as an owner, in place of the one it had. -/
def point (w : Workshop σ) (name : String) (a : Nat) : Workshop σ :=
  let w := w.drop name
  { w with labelers := (name, a) :: w.labelers }

/-- Gives a name to a labeler over a source of its own. -/
def create (w : Workshop σ) (name : String) (source : σ) : Workshop σ :=
  let (a, heap) := w.heap.allocate source
  { w with heap }.point name a

/-- Lets a labeler share the source of another one, which must exist. -/
def share? (w : Workshop σ) (name source : String) : Option (Workshop σ) :=
  (w.address? source).map fun a => { w with heap := w.heap.retain a }.point name a

/-- Keeps a handle on the source of a labeler, which must exist. -/
def hold? (w : Workshop σ) (name : String) : Option (Workshop σ) :=
  (w.address? name).map fun a => { w with heap := w.heap.retain a, handles := w.handles ++ [a] }

/-- Lets a labeler share the source behind a handle, which must exist. -/
def adopt? (w : Workshop σ) (name : String) (handle : Nat) : Option (Workshop σ) :=
  w.handles[handle]?.map fun a => { w with heap := w.heap.retain a }.point name a

/-- Gives up one handle. -/
def releaseHandle (w : Workshop σ) (handle : Nat) : Workshop σ :=
  match w.handles[handle]? with
  | none => w
  | some a => { w with heap := w.heap.release a, handles := w.handles.eraseIdx handle }

/-- Gives up all handles. -/
def releaseHandles (w : Workshop σ) : Workshop σ :=
  { w with heap := w.handles.foldl Heap.release w.heap, handles := [] }

variable [CandidateSource σ]

/-- Replaces the default placement of a labeler, if there is one of that name. -/
def setPlacement? (w : Workshop σ) (name : String) (p : Placement) :
    Option (Except PlacementError Unit × Workshop σ) :=
  (w.address? name).map fun a =>
    let (outcome, b, heap) := w.heap.edit a p
    (outcome, { w with
      heap, labelers := w.labelers.map fun l => if l.1 = name then (name, b) else l })

/-- Replaces the default style of a labeler, if there is one of that name. -/
def setStyle? (w : Workshop σ) (name : String) (s : Style) :
    Option (Except PlacementError Unit × Workshop σ) :=
  match w.source? name with
  | none => none
  | some source =>
    match s.validate with
    | .error e => some (.error (.style e), w)
    | .ok _ => w.setPlacement? name (Labeler.restyled source s)

end Workshop

/-! ## Requests of one labeler -/

/-- What a labeler can be asked for. -/
inductive Request where
  | placement (p : Placement)
  | style (s : Style)

def Workshop.request? {σ : Type} [CandidateSource σ] (w : Workshop σ) (name : String) :
    Request → Option (Except PlacementError Unit × Workshop σ)
  | .placement p => w.setPlacement? name p
  | .style s => w.setStyle? name s

/-! ## Operations -/

/-- How a new source comes about. -/
inductive Maker where
  /-- For one text in one font. -/
  | ofName (text : Expression) (faceName : String) (textSize : Float) (fill : Color)
  | default
  | ofSource (source : AnySource)

/-- The new source, unless it is refused. -/
def Maker.make : Maker → Except PlacementError AnySource
  | ofName text faceName textSize fill => (Labeler.sourceOfName text faceName textSize fill).map .candidates
  | default => .ok (.candidates .defaultSingle)
  | ofSource source => .ok source

inductive Operation where
  | create (name : String) (maker : Maker)
  /-- Lets a labeler have the source of another one. -/
  | share (name source : String)
  | hold (name : String)
  /-- Lets a labeler have the source behind a handle. -/
  | adopt (name : String) (handle : Nat)
  | setPlacement (name : String) (p : Placement)
  | setStyle (name : String) (s : Style)
  | drop (name : String)
  | releaseHandle (handle : Nat)
  | releaseHandles

/-- How an operation went, or `none` if there was no such labeler or handle. -/
abbrev Outcome : Type := Option (Except PlacementError Unit)

/-- An operation on a labeler or handle that has to be there. Without it nothing happens. -/
def Outcome.ofOption {α : Type} (before : α) (after : Option α) : Outcome × α :=
  (after.map fun _ => .ok (), after.getD before)

def Workshop.perform (w : Workshop AnySource) : Operation → Outcome × Workshop AnySource
  | .create name maker =>
    match maker.make with
    | .ok source => (some (.ok ()), w.create name source)
    | .error e => (some (.error e), w)
  | .share name source => Outcome.ofOption w (w.share? name source)
  | .hold name => Outcome.ofOption w (w.hold? name)
  | .adopt name handle => Outcome.ofOption w (w.adopt? name handle)
  | .setPlacement name p =>
    match w.setPlacement? name p with
    | some (outcome, w') => (some outcome, w')
    | none => (none, w)
  | .setStyle name s =>
    match w.setStyle? name s with
    | some (outcome, w') => (some outcome, w')
    | none => (none, w)
  | .drop name => ((w.address? name).map fun _ => .ok (), w.drop name)
  | .releaseHandle handle => ((w.handles[handle]?).map fun _ => .ok (), w.releaseHandle handle)
  | .releaseHandles => (some (.ok ()), w.releaseHandles)

/-- The outcomes of operations made one after the other, and the workshop after them. -/
def Workshop.run (w : Workshop AnySource) : List Operation → List Outcome × Workshop AnySource
  | [] => ([], w)
  | op :: ops => ((w.perform op).1 :: ((w.perform op).2.run ops).1, ((w.perform op).2.run ops).2)

end MapLabel
