import MapLabel.Proofs.Labeler.Owners
import Mathlib.Data.List.InsertIdx
import Mathlib.Data.List.Nodup
/-!
# Sharing is not seen

Labelers and handles that share sources are set beside ones that own a source each. `sharing_not_seen`:
after any operations, refused ones included, every labeler and every handle shows the same source in
both, and each operation had the same outcome. So an edit of one labeler is never seen through another
one or through a handle.

What carries the proof is that the two show the same sources (`Shows`) while each cell counts its owners
(`Mirrors`). An operation of the workshop takes pointers, gives up pointers or edits through one, and each
of these is shown to keep both.
-/

namespace MapLabel

/-! ## Lists with one entry for a name -/

section Lookup

variable {α β : Type} {name : String} {a : α} {l : List (String × α)}

theorem lookup_map (f : α → β) (name : String) (l : List (String × α)) :
    (l.map (Prod.map id f)).lookup name = (l.lookup name).map f := by
  induction l with
  | nil => rfl
  | cons x l ih =>
    rw [List.map_cons, List.lookup_cons, List.lookup_cons]
    cases hx : name == x.1 <;> simp [hx, ih]

theorem filter_of_lookup_eq_none (h : l.lookup name = none) : l.filter (fun x => x.1 ≠ name) = l := by
  refine List.filter_eq_self.2 fun x hx => ?_
  have hne := List.lookup_eq_none_iff.1 h x hx
  rw [decide_eq_true_eq]
  rintro rfl
  simp at hne

theorem map_filter_name (f : α → β) (name : String) (l : List (String × α)) :
    (l.filter fun x => x.1 ≠ name).map (Prod.map id f) = (l.map (Prod.map id f)).filter fun x => x.1 ≠ name := by
  rw [List.filter_map]
  rfl

/-- Where one side leads to what is on the other, it is on both or on neither. -/
theorem cases_of_map_eq_map_some {f : α → Option β} {x : Option α} {y : Option β} (h : x.map f = y.map some) :
    (x = none ∧ y = none) ∨ ∃ a b, x = some a ∧ f a = some b ∧ y = some b := by
  cases x with
  | none => exact .inl ⟨rfl, Option.map_eq_none_iff.1 h.symm⟩
  | some a =>
    obtain ⟨b, hy, hfa⟩ := Option.map_eq_some_iff.1 h.symm
    exact .inr ⟨a, b, rfl, hfa.symm, hy⟩

/-- The entry found can be brought to the front. The others are those of other names. -/
theorem perm_cons_filter (hn : (l.map Prod.fst).Nodup) (h : l.lookup name = some a) :
    l.Perm ((name, a) :: l.filter (fun x => x.1 ≠ name)) := by
  obtain ⟨l₁, l₂, rfl, -⟩ := List.lookup_eq_some_iff.1 h
  have hp : (l₁ ++ (name, a) :: l₂).Perm ((name, a) :: (l₁ ++ l₂)) := List.perm_middle
  have hother : ∀ x ∈ l₁ ++ l₂, decide (x.1 ≠ name) = true := by
    intro x hx
    have hnot := (List.nodup_cons.1 ((hp.map Prod.fst).nodup_iff.1 hn)).1
    have hmem : x.1 ∈ (l₁ ++ l₂).map Prod.fst := List.mem_map_of_mem hx
    rw [decide_eq_true_eq]
    exact fun hname => hnot (hname ▸ hmem)
  rwa [List.filter_append, List.filter_cons_of_neg (by simp), ← List.filter_append, List.filter_eq_self.2 hother]

/-- The list with another value under a name that has one. -/
def reassign (name : String) (a : α) (l : List (String × α)) : List (String × α) :=
  l.map fun x => if x.1 = name then (name, a) else x

theorem map_fst_reassign (name : String) (a : α) (l : List (String × α)) :
    (reassign name a l).map Prod.fst = l.map Prod.fst := by
  rw [reassign, List.map_map]
  refine List.map_congr_left fun x _ => ?_
  by_cases hx : x.1 = name <;> simp [hx]

/-- The value that is replaced may be mapped to anything. -/
theorem map_reassign {f g : α → β} (h : ∀ x ∈ l, x.1 ≠ name → f x.2 = g x.2) (a : α) :
    (reassign name a l).map (Prod.map id f) = reassign name (f a) (l.map (Prod.map id g)) := by
  rw [reassign, reassign, List.map_map, List.map_map]
  refine List.map_congr_left fun x hx => ?_
  by_cases hname : x.1 = name
  · simp [hname]
  · simp [hname, Prod.map, h x hx hname]

theorem reassign_perm (hn : (l.map Prod.fst).Nodup) (h : l.lookup name = some a) (b : α) :
    (reassign name b l).Perm ((name, b) :: l.filter (fun x => x.1 ≠ name)) := by
  have hrest : reassign name b (l.filter fun x => x.1 ≠ name) = l.filter fun x => x.1 ≠ name := by
    refine (List.map_congr_left fun x hx => ?_).trans (List.map_id _)
    simp [of_decide_eq_true (List.mem_filter.1 hx).2]
  have hperm := (perm_cons_filter hn h).map fun x => if x.1 = name then (name, b) else x
  rw [List.map_cons, if_pos rfl] at hperm
  rw [← hrest]
  exact hperm

theorem lookup_reassign_self (h : l.lookup name = some a) (b : α) : (reassign name b l).lookup name = some b := by
  induction l with
  | nil => cases h
  | cons x l ih =>
    rw [reassign, List.map_cons, ← reassign, List.lookup_cons]
    rw [List.lookup_cons] at h
    by_cases hx : x.1 = name
    · simp [hx]
    · have hname : (name == x.1) = false := by simpa using Ne.symm hx
      rw [hname] at h
      rw [if_neg hx, hname]
      exact ih h

theorem lookup_reassign_of_ne {other : String} (hne : other ≠ name) (a : α) (l : List (String × α)) :
    (reassign name a l).lookup other = l.lookup other := by
  have hother : (other == name) = false := by simpa using hne
  induction l with
  | nil => rfl
  | cons x l ih =>
    rw [reassign, List.map_cons, ← reassign, List.lookup_cons, List.lookup_cons, ih]
    by_cases hx : x.1 = name <;> simp [hx, hother]

/-- The value that is there may be put there again. -/
theorem reassign_of_lookup (hn : (l.map Prod.fst).Nodup) (h : l.lookup name = some a) : reassign name a l = l := by
  have hmem : (name, a) ∈ l := by
    obtain ⟨l₁, l₂, rfl, -⟩ := List.lookup_eq_some_iff.1 h
    exact List.mem_append_right l₁ List.mem_cons_self
  refine (List.map_congr_left fun x hx => ?_).trans (List.map_id l)
  by_cases hname : x.1 = name
  · rw [if_pos hname, id, List.inj_on_of_nodup_map hn hx hmem hname]
  · rw [if_neg hname, id]

end Lookup

/-! ## Owners of their own sources -/

/-- Labelers and handles that own a source each. -/
structure Bench (σ : Type) where
  labelers : List (String × σ) := []
  handles : List σ := []

namespace Bench

variable {σ : Type}

def source? (v : Bench σ) (name : String) : Option σ := v.labelers.lookup name

def drop (v : Bench σ) (name : String) : Bench σ :=
  { v with labelers := v.labelers.filter fun l => l.1 ≠ name }

/-- Gives a name to a labeler over a source. -/
def put (v : Bench σ) (name : String) (source : σ) : Bench σ :=
  { v with labelers := (name, source) :: (v.drop name).labelers }

/-- Another source for a labeler that is there. -/
def replace (v : Bench σ) (name : String) (source : σ) : Bench σ :=
  { v with labelers := reassign name source v.labelers }

theorem source?_replace {v : Bench σ} {name : String} {source : σ} (h : v.source? name = some source) (after : σ) :
    (v.replace name after).source? name = some after :=
  lookup_reassign_self h after

end Bench

/-! ## Both side by side -/

namespace Workshop

variable {σ : Type} {w : Workshop σ} {v : Bench σ} {name : String} {a : Nat} {source : σ}

/-- The pointers of labelers and handles. -/
def pointers (w : Workshop σ) : List Nat := w.labelers.map Prod.snd ++ w.handles

/-- Those of the labelers with other names, and of the handles. -/
def pointersBeside (w : Workshop σ) (name : String) : List Nat :=
  (w.labelers.filter fun l => l.1 ≠ name).map Prod.snd ++ w.handles

/-- The sources that the pointers lead to are those on the bench. -/
structure Shows (w : Workshop σ) (v : Bench σ) : Prop where
  names : (w.labelers.map Prod.fst).Nodup
  labelers : w.labelers.map (Prod.map id w.heap.source?) = v.labelers.map (Prod.map id some)
  handles : w.handles.map w.heap.source? = v.handles.map some

structure Mirrors (w : Workshop σ) (v : Bench σ) : Prop extends Shows w v where
  counts : w.heap.Counts w.pointers

theorem pointers_perm (hn : (w.labelers.map Prod.fst).Nodup) (ha : w.address? name = some a) :
    w.pointers.Perm (a :: w.pointersBeside name) :=
  ((perm_cons_filter hn ha).map Prod.snd).append_right w.handles

namespace Shows

/-- A labeler is either on both sides, over one source, or on neither. -/
theorem cases_labeler (h : w.Shows v) (name : String) :
    (w.address? name = none ∧ v.source? name = none) ∨
    ∃ a source, w.address? name = some a ∧ w.heap.source? a = some source ∧ v.source? name = some source := by
  refine cases_of_map_eq_map_some ?_
  rw [address?, Bench.source?, ← lookup_map, ← lookup_map, h.labelers]

/-- The same of a handle. -/
theorem cases_handle (h : w.Shows v) (k : Nat) :
    (w.handles[k]? = none ∧ v.handles[k]? = none) ∨
    ∃ a source, w.handles[k]? = some a ∧ w.heap.source? a = some source ∧ v.handles[k]? = some source := by
  refine cases_of_map_eq_map_some ?_
  rw [← List.getElem?_map, ← List.getElem?_map, h.handles]

theorem names_bench (h : w.Shows v) : (v.labelers.map Prod.fst).Nodup := by
  have hnames := congrArg (List.map Prod.fst) h.labelers
  rw [List.map_map, List.map_map] at hnames
  exact (show w.labelers.map Prod.fst = v.labelers.map Prod.fst from hnames) ▸ h.names

theorem source?_eq (h : w.Shows v) (name : String) : w.source? name = v.source? name := by
  rcases h.cases_labeler name with ⟨ha, hv⟩ | ⟨a, source, ha, hs, hv⟩
  · rw [Workshop.source?, ha, hv]; rfl
  · rw [Workshop.source?, ha, hv]; exact hs

theorem heldSources_eq (h : w.Shows v) : w.heldSources = v.handles := by
  have hid : w.heldSources = (w.handles.map w.heap.source?).filterMap id := by
    rw [List.filterMap_map, heldSources]; rfl
  rw [hid, h.handles, List.filterMap_map]
  simp

/-- What is shown depends on the heap through the sources behind the pointers alone. -/
theorem congr {heap : Heap σ} (h : w.Shows v) (hsame : ∀ a ∈ w.pointers, heap.source? a = w.heap.source? a) :
    { w with heap }.Shows v where
  names := h.names
  labelers := by
    rw [← h.labelers]
    refine List.map_congr_left fun l hl => ?_
    rw [Prod.map, Prod.map, hsame l.2 (List.mem_append_left _ (List.mem_map_of_mem hl))]
  handles := by
    rw [← h.handles]
    exact List.map_congr_left fun a ha => hsame a (List.mem_append_right _ ha)

end Shows

/-! ### Giving up a pointer -/

theorem labelers_drop (w : Workshop σ) (name : String) :
    (w.drop name).labelers = w.labelers.filter fun l => l.1 ≠ name := by
  unfold drop
  split
  · rename_i h
    exact (filter_of_lookup_eq_none h).symm
  · rfl

theorem handles_drop (w : Workshop σ) (name : String) : (w.drop name).handles = w.handles := by
  unfold drop
  split <;> rfl

theorem source?_drop (w : Workshop σ) (name : String) : (w.drop name).heap.source? = w.heap.source? := by
  unfold drop
  split
  · rfl
  · exact Heap.source?_release _ _

theorem pointers_drop (w : Workshop σ) (name : String) : (w.drop name).pointers = w.pointersBeside name := by
  rw [pointers, labelers_drop, handles_drop, pointersBeside]

/-- Some pointers that are in nobody's hands yet may stand by. -/
theorem counts_drop (as : List Nat) (hn : (w.labelers.map Prod.fst).Nodup) (hc : w.heap.Counts (as ++ w.pointers)) :
    (w.drop name).heap.Counts (as ++ (w.drop name).pointers) := by
  cases ha : w.address? name with
  | none =>
    have hdrop : w.drop name = w := by simp only [drop, ha]
    rwa [hdrop]
  | some a =>
    have hheap : (w.drop name).heap = w.heap.release a := by simp only [drop, ha]
    rw [hheap, pointers_drop]
    exact (hc.perm (((pointers_perm hn ha).append_left as).trans List.perm_middle)).release

theorem Shows.drop (h : w.Shows v) (name : String) : (w.drop name).Shows (v.drop name) where
  names := by
    rw [labelers_drop]
    exact h.names.sublist (List.filter_sublist.map Prod.fst)
  labelers := by
    rw [labelers_drop, source?_drop, map_filter_name, h.labelers, ← map_filter_name]
    rfl
  handles := by
    rw [handles_drop, source?_drop, h.handles]
    rfl

theorem Mirrors.drop (h : w.Mirrors v) (name : String) : (w.drop name).Mirrors (v.drop name) where
  toShows := h.toShows.drop name
  counts := counts_drop [] h.names h.counts

/-! ### Taking a pointer -/

/-- A labeler may take over a pointer that is counted already. -/
theorem Shows.point (h : w.Shows v) (hc : w.heap.Counts (a :: w.pointers)) (hs : w.heap.source? a = some source) :
    (w.point name a).Mirrors (v.put name source) where
  names := by
    refine List.nodup_cons.2 ⟨fun hmem => ?_, (h.drop name).names⟩
    obtain ⟨l, hl, hname⟩ := List.mem_map.1 hmem
    rw [labelers_drop, List.mem_filter, decide_eq_true_eq] at hl
    exact hl.2 hname
  labelers := by
    rw [Workshop.point, List.map_cons, (h.drop name).labelers, source?_drop, Prod.map, hs]
    rfl
  handles := (h.drop name).handles
  counts := counts_drop [a] h.names hc

theorem Mirrors.create (h : w.Mirrors v) (name : String) (source : σ) :
    (w.create name source).Mirrors (v.put name source) := by
  have hshows : ({ w with heap := (w.heap.allocate source).2 } : Workshop σ).Shows v :=
    h.congr fun a ha => Heap.source?_allocate_of_lt source (h.counts.allocated a ha)
  exact hshows.point (h.counts.allocate source) (Heap.source?_allocate w.heap source)

/-- A pointer that somebody has can be copied. -/
theorem Mirrors.retain (h : w.Mirrors v) (hs : w.heap.source? a = some source) :
    ({ w with heap := w.heap.retain a } : Workshop σ).Shows v ∧ (w.heap.retain a).Counts (a :: w.pointers) :=
  ⟨h.congr fun b _ => by rw [Heap.source?_retain], h.counts.retain (Heap.lt_of_source? hs)⟩

theorem Mirrors.pointRetained (h : w.Mirrors v) (hs : w.heap.source? a = some source) (name : String) :
    (({ w with heap := w.heap.retain a } : Workshop σ).point name a).Mirrors (v.put name source) := by
  obtain ⟨hshows, hcounts⟩ := h.retain hs
  exact hshows.point hcounts (by rw [Heap.source?_retain]; exact hs)

theorem Mirrors.hold (h : w.Mirrors v) (hs : w.heap.source? a = some source) :
    ({ w with heap := w.heap.retain a, handles := w.handles ++ [a] } : Workshop σ).Mirrors
      { v with handles := v.handles ++ [source] } := by
  obtain ⟨hshows, hcounts⟩ := h.retain hs
  refine ⟨⟨hshows.names, hshows.labelers, ?_⟩, hcounts.perm ?_⟩
  · rw [List.map_append, List.map_append, hshows.handles, List.map_singleton, List.map_singleton,
      Heap.source?_retain, hs]
  · rw [pointers, pointers, ← List.append_assoc]
    exact (List.perm_append_singleton a _).symm

/-! ### Handles -/

theorem Mirrors.releaseHandle (h : w.Mirrors v) (k : Nat) :
    (w.releaseHandle k).Mirrors { v with handles := v.handles.eraseIdx k } := by
  unfold Workshop.releaseHandle
  rcases h.cases_handle k with ⟨ha, hv⟩ | ⟨a, source, ha, hs, hv⟩
  · rw [ha, List.eraseIdx_of_length_le (List.getElem?_eq_none_iff.1 hv)]
    exact h
  · rw [ha]
    obtain ⟨hk, hak⟩ := List.getElem?_eq_some_iff.1 ha
    have hperm : w.handles.Perm (a :: w.handles.eraseIdx k) := hak ▸ (List.getElem_cons_eraseIdx_perm hk).symm
    refine ⟨⟨h.names, ?_, ?_⟩, ?_⟩
    · rw [Heap.source?_release]
      exact h.labelers
    · rw [Heap.source?_release, ← List.eraseIdx_map, ← List.eraseIdx_map, h.handles]
    · exact (h.counts.perm ((hperm.append_left _).trans List.perm_middle)).release

theorem Mirrors.releaseHandles (h : w.Mirrors v) : w.releaseHandles.Mirrors { v with handles := [] } where
  names := h.names
  labelers := by
    rw [Workshop.releaseHandles, Heap.source?_foldl_release]
    exact h.labelers
  handles := rfl
  counts := by
    rw [Workshop.releaseHandles, pointers, List.append_nil]
    exact (h.counts.perm List.perm_append_comm).foldl_release

/-! ### Edits -/

/-- A labeler whose source was replaced on the bench shows the new one. -/
theorem Mirrors.source?_of_replace {w' : Workshop σ} {after : σ} (h : w.Mirrors v) (hs : w.source? name = some source)
    (h' : w'.Mirrors (v.replace name after)) : w'.source? name = some after :=
  (h'.source?_eq name).trans (Bench.source?_replace ((h.source?_eq name).symm.trans hs) after)

section Edits

variable [CandidateSource σ]

/-- What a labeler shows after an edit depends on whether a handle or another labeler has its pointer. What the
others show does not. -/
theorem Mirrors.setPlacement_cases (h : w.Mirrors v) (ha : w.address? name = some a)
    (hs : w.heap.source? a = some source) (p : Placement) :
    ∃ w' after, w.setPlacement? name p = some ((CandidateSource.setDefaults source p).1, w') ∧
      w'.Mirrors (v.replace name after) ∧
      (a ∉ w.pointersBeside name → after = (CandidateSource.setDefaults source p).2) ∧
      (a ∈ w.pointersBeside name → after = (Labeler.edit source p).2) := by
  obtain ⟨b, heap, after, hedit, hcounts, hb, hsole, hshared, hother⟩ :=
    Heap.edit_cases (h.counts.perm (pointers_perm h.names ha)) hs p
  refine ⟨{ w with heap, labelers := reassign name b w.labelers }, after, ?_, ⟨⟨?_, ?_, ?_⟩, ?_⟩, hsole, hshared⟩
  · simp only [setPlacement?, ha, Option.map_some, hedit, reassign]
  · rw [map_fst_reassign]
    exact h.names
  · have hsame : ∀ l ∈ w.labelers, l.1 ≠ name → heap.source? l.2 = w.heap.source? l.2 := fun l hl hname =>
      hother l.2 (List.mem_append_left _ (List.mem_map_of_mem (List.mem_filter.2 ⟨hl, decide_eq_true hname⟩)))
    rw [map_reassign hsame, hb, h.labelers, ← map_reassign fun _ _ _ => rfl]
    rfl
  · refine Eq.trans ?_ h.handles
    exact List.map_congr_left fun a' ha' => hother a' (List.mem_append_right _ ha')
  · exact hcounts.perm (((reassign_perm h.names ha b).map Prod.snd).append_right w.handles).symm

variable [SteadySource σ]

theorem Mirrors.setPlacement (h : w.Mirrors v) (ha : w.address? name = some a) (hs : w.heap.source? a = some source)
    (p : Placement) :
    ∃ w', w.setPlacement? name p = some ((Labeler.edit source p).1, w') ∧
      w'.Mirrors (v.replace name (Labeler.edit source p).2) := by
  obtain ⟨w', after, hedit, hmirrors, hsole, hshared⟩ := h.setPlacement_cases ha hs p
  have hsame := Labeler.edit_eq_setDefaults source p
  have hafter : after = (Labeler.edit source p).2 := by
    by_cases hbeside : a ∈ w.pointersBeside name
    · exact hshared hbeside
    · rw [hsame]
      exact hsole hbeside
  rw [hsame] at hafter ⊢
  exact ⟨w', hedit, hafter ▸ hmirrors⟩

/-- A refused edit changes neither the sources nor who has which pointer. -/
theorem Mirrors.setPlacement_refused {p : Placement} {e : PlacementError} (h : w.Mirrors v)
    (ha : w.address? name = some a) (hs : w.heap.source? a = some source)
    (he : (CandidateSource.setDefaults source p).1 = .error e) : w.setPlacement? name p = some (.error e, w) := by
  have hsame : reassign name a w.labelers = w.labelers := reassign_of_lookup h.names ha
  rw [reassign] at hsame
  simp only [setPlacement?, ha, Option.map_some, Heap.edit_refused hs he, hsame]

theorem Mirrors.setStyle (h : w.Mirrors v) (ha : w.address? name = some a) (hs : w.heap.source? a = some source)
    (s : Style) :
    ∃ w', w.setStyle? name s = some ((Labeler.editStyle source s).1, w') ∧
      w'.Mirrors (v.replace name (Labeler.editStyle source s).2) := by
  have hsource : w.source? name = some source := by rw [source?, ha]; exact hs
  unfold setStyle? Labeler.editStyle
  rw [hsource]
  cases s.validate with
  | error e =>
    have hsame : v.replace name source = v := by
      have hv : v.labelers.lookup name = some source := (h.source?_eq name).symm.trans hsource
      rw [Bench.replace, reassign_of_lookup h.names_bench hv]
    exact ⟨w, rfl, hsame.symm ▸ h⟩
  | ok => exact h.setPlacement ha hs (Labeler.restyled source s)

end Edits

end Workshop

/-! ## Operations -/

/-- The same where nothing is shared: to share is to copy, and an edit changes the one source. -/
def Bench.perform (v : Bench AnySource) : Operation → Outcome × Bench AnySource
  | .create name maker =>
    match maker.make with
    | .ok source => (some (.ok ()), v.put name source)
    | .error e => (some (.error e), v)
  | .share name source => Outcome.ofOption v ((v.source? source).map (v.put name))
  | .hold name =>
    Outcome.ofOption v ((v.source? name).map fun source => { v with handles := v.handles ++ [source] })
  | .adopt name handle => Outcome.ofOption v ((v.handles[handle]?).map (v.put name))
  | .setPlacement name p =>
    match v.source? name with
    | some source => (some (Labeler.edit source p).1, v.replace name (Labeler.edit source p).2)
    | none => (none, v)
  | .setStyle name s =>
    match v.source? name with
    | some source => (some (Labeler.editStyle source s).1, v.replace name (Labeler.editStyle source s).2)
    | none => (none, v)
  | .drop name => ((v.source? name).map fun _ => .ok (), v.drop name)
  | .releaseHandle handle =>
    ((v.handles[handle]?).map fun _ => .ok (), { v with handles := v.handles.eraseIdx handle })
  | .releaseHandles => (some (.ok ()), { v with handles := [] })

namespace Workshop

variable {w : Workshop AnySource} {v : Bench AnySource}

/-- An operation goes the same on both sides and leaves the same to be seen. -/
theorem Mirrors.perform (h : w.Mirrors v) (op : Operation) :
    (w.perform op).1 = (v.perform op).1 ∧ (w.perform op).2.Mirrors (v.perform op).2 := by
  cases op with
  | create name maker =>
    dsimp only [Workshop.perform, Bench.perform]
    cases maker.make with
    | error e => exact ⟨rfl, h⟩
    | ok source => exact ⟨rfl, h.create name source⟩
  | share name from' =>
    dsimp only [Workshop.perform, Bench.perform, share?]
    rcases h.cases_labeler from' with ⟨ha, hv⟩ | ⟨a, source, ha, hs, hv⟩
    · rw [ha, hv]
      exact ⟨rfl, h⟩
    · rw [ha, hv]
      exact ⟨rfl, h.pointRetained hs name⟩
  | hold name =>
    dsimp only [Workshop.perform, Bench.perform, hold?]
    rcases h.cases_labeler name with ⟨ha, hv⟩ | ⟨a, source, ha, hs, hv⟩
    · rw [ha, hv]
      exact ⟨rfl, h⟩
    · rw [ha, hv]
      exact ⟨rfl, h.hold hs⟩
  | adopt name handle =>
    dsimp only [Workshop.perform, Bench.perform, adopt?]
    rcases h.cases_handle handle with ⟨ha, hv⟩ | ⟨a, source, ha, hs, hv⟩
    · rw [ha, hv]
      exact ⟨rfl, h⟩
    · rw [ha, hv]
      exact ⟨rfl, h.pointRetained hs name⟩
  | setPlacement name p =>
    dsimp only [Workshop.perform, Bench.perform]
    rcases h.cases_labeler name with ⟨ha, hv⟩ | ⟨a, source, ha, hs, hv⟩
    · rw [hv, setPlacement?, ha]
      exact ⟨rfl, h⟩
    · obtain ⟨w', hw, hmirrors⟩ := h.setPlacement ha hs p
      rw [hv, hw]
      exact ⟨rfl, hmirrors⟩
  | setStyle name s =>
    dsimp only [Workshop.perform, Bench.perform]
    rcases h.cases_labeler name with ⟨ha, hv⟩ | ⟨a, source, ha, hs, hv⟩
    · rw [hv, setStyle?, source?, ha]
      exact ⟨rfl, h⟩
    · obtain ⟨w', hw, hmirrors⟩ := h.setStyle ha hs s
      rw [hv, hw]
      exact ⟨rfl, hmirrors⟩
  | drop name =>
    refine ⟨?_, h.drop name⟩
    dsimp only [Workshop.perform, Bench.perform]
    rcases h.cases_labeler name with ⟨ha, hv⟩ | ⟨a, source, ha, hs, hv⟩ <;> rw [ha, hv] <;> rfl
  | releaseHandle handle =>
    refine ⟨?_, h.releaseHandle handle⟩
    dsimp only [Workshop.perform, Bench.perform]
    rcases h.cases_handle handle with ⟨ha, hv⟩ | ⟨a, source, ha, hs, hv⟩ <;> rw [ha, hv] <;> rfl
  | releaseHandles => exact ⟨rfl, h.releaseHandles⟩

theorem mirrors_empty {σ : Type} : ({} : Workshop σ).Mirrors {} where
  names := List.nodup_nil
  labelers := rfl
  handles := rfl
  counts := ⟨fun a c hcell => by simp at hcell, fun a ha => by cases ha⟩

end Workshop

/-! ## Runs -/

def Bench.run (v : Bench AnySource) : List Operation → List Outcome × Bench AnySource
  | [] => ([], v)
  | op :: ops => ((v.perform op).1 :: ((v.perform op).2.run ops).1, ((v.perform op).2.run ops).2)

theorem Workshop.Mirrors.run {w : Workshop AnySource} {v : Bench AnySource} (h : w.Mirrors v) (ops : List Operation) :
    (w.run ops).1 = (v.run ops).1 ∧ (w.run ops).2.Mirrors (v.run ops).2 := by
  induction ops generalizing w v with
  | nil => exact ⟨rfl, h⟩
  | cons op ops ih =>
    obtain ⟨houtcome, hstep⟩ := h.perform op
    obtain ⟨houtcomes, hrun⟩ := ih hstep
    rw [Workshop.run, Bench.run, houtcome, houtcomes]
    exact ⟨rfl, hrun⟩

/-- The operation is an edit of the labeler with a name. -/
def Operation.Edits : Operation → String → Prop
  | .setPlacement edited _, name | .setStyle edited _, name => edited = name
  | _, _ => False

theorem Bench.source?_replace_of_ne {v : Bench AnySource} {name other : String} (hne : other ≠ name)
    (source : AnySource) : (v.replace name source).source? other = v.source? other :=
  lookup_reassign_of_ne hne source v.labelers

theorem Bench.perform_of_edits {op : Operation} {name other : String} (he : op.Edits name) (hne : other ≠ name)
    (v : Bench AnySource) :
    (v.perform op).2.source? other = v.source? other ∧ (v.perform op).2.handles = v.handles := by
  cases op with
  | setPlacement edited p =>
    obtain rfl : edited = name := he
    dsimp only [perform]
    cases v.source? edited with
    | none => exact ⟨rfl, rfl⟩
    | some source => exact ⟨source?_replace_of_ne hne _, rfl⟩
  | setStyle edited s =>
    obtain rfl : edited = name := he
    dsimp only [perform]
    cases v.source? edited with
    | none => exact ⟨rfl, rfl⟩
    | some source => exact ⟨source?_replace_of_ne hne _, rfl⟩
  | _ => cases he

/-- After any operations a labeler has the source that it would have if nothing were shared, and so has
every handle, and each operation went as it would have gone then. An edit of one labeler is not seen
through any other one, nor through a handle. -/
theorem Workshop.sharing_not_seen (ops : List Operation) :
    let shared := ({} : Workshop AnySource).run ops
    let apart := ({} : Bench AnySource).run ops
    shared.1 = apart.1 ∧
    (∀ name, shared.2.source? name = apart.2.source? name) ∧
    shared.2.heldSources = apart.2.handles ∧
    ∀ (op : Operation) (name other : String), op.Edits name → other ≠ name →
      (shared.2.perform op).2.source? other = shared.2.source? other ∧
      (shared.2.perform op).2.heldSources = shared.2.heldSources := by
  intro shared apart
  obtain ⟨houtcomes, hmirrors⟩ := mirrors_empty.run ops
  refine ⟨houtcomes, hmirrors.source?_eq, hmirrors.heldSources_eq, fun op name other he hne => ?_⟩
  obtain ⟨-, hafter⟩ := hmirrors.perform op
  obtain ⟨hsource, hhandles⟩ := Bench.perform_of_edits he hne apart.2
  constructor
  · rw [hafter.source?_eq, hsource, hmirrors.source?_eq]
  · rw [hafter.heldSources_eq, hhandles, hmirrors.heldSources_eq]

end MapLabel
