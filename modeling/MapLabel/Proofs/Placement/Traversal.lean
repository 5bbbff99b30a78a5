import MapLabel.Placement.Cursor
import Mathlib.Data.ENat.Lattice
/-!
# The way of a cursor

A cursor is asked to move on, is read, and carries values that the renderer writes as it likes, in any
order. `run_ofSource`: over `n` candidates, where `n` may be infinite, the first `n` requests to move on
succeed and no later one does. Where the cursor stands depends on the number of these requests alone,
and what it answers depends on where it stands and, for scaled distances, on the scale at that moment.

A source may have candidates again behind a number without one. They do not count: `extent` is the
least number without a candidate.
-/

namespace MapLabel.Cursor

/-! ## The candidates that are tried -/

section Extent

variable {candidate? : Nat → Option Placement} {i : Nat}

/-- The least number that has no candidate. -/
noncomputable def extent (candidate? : Nat → Option Placement) : ℕ∞ :=
  ⨅ (i : Nat) (_ : candidate? i = none), (i : ℕ∞)

theorem succ_le_extent_iff : ((i + 1 : Nat) : ℕ∞) ≤ extent candidate? ↔ ∀ j ≤ i, candidate? j ≠ none := by
  simp only [extent, le_iInf_iff, Nat.cast_le]
  constructor
  · intro h j hj hnone
    have := h j hnone
    omega
  · intro h j hnone
    by_contra hlt
    exact h j (by omega) hnone

theorem lt_extent_iff : (i : ℕ∞) < extent candidate? ↔ ∀ j ≤ i, candidate? j ≠ none := by
  rw [← succ_le_extent_iff, Nat.cast_succ, ENat.add_one_le_iff (ENat.natCast_ne_top i)]

/-- Once all before it are there, a candidate counts exactly if it is there itself. -/
theorem lt_extent_iff_of_le (h : (i : ℕ∞) ≤ extent candidate?) :
    (i : ℕ∞) < extent candidate? ↔ candidate? i ≠ none := by
  refine ⟨fun hlt => lt_extent_iff.1 hlt i le_rfl, fun hi => lt_extent_iff.2 fun j hj => ?_⟩
  rcases Nat.lt_or_eq_of_le hj with hj | rfl
  · exact lt_extent_iff.1 (lt_of_lt_of_le (Nat.cast_lt.2 hj) h) j le_rfl
  · exact hi

end Extent

/-! ## Where the cursor stands -/

namespace State

/-- The state after `k` requests to move on over `n` candidates. -/
def after (n : ℕ∞) : Nat → State
  | 0 => unstarted
  | i + 1 => if (i : ℕ∞) < n then positioned i else exhausted

theorem upcoming?_after (n : ℕ∞) (k : Nat) : (after n k).upcoming? = if (k : ℕ∞) ≤ n then some k else none := by
  cases k with
  | zero => simp [after, upcoming?]
  | succ i =>
    simp only [after, Nat.cast_succ, ENat.add_one_le_iff (ENat.natCast_ne_top i)]
    split <;> rfl

theorem after_of_not_le {n : ℕ∞} {k : Nat} (h : ¬ (k : ℕ∞) ≤ n) : after n k = exhausted := by
  cases k with
  | zero => simp at h
  | succ i =>
    rw [Nat.cast_succ, ENat.add_one_le_iff (ENat.natCast_ne_top i)] at h
    rw [after, if_neg h]

theorem lt_of_after_eq_positioned {n : ℕ∞} {k i : Nat} (h : after n k = positioned i) : (i : ℕ∞) < n := by
  cases k with
  | zero => cases h
  | succ j =>
    rw [after] at h
    split at h
    · cases h
      assumption
    · cases h

end State

/-! ## What belongs to the renderer -/

@[simp] theorem board_withBoard (c : Cursor) (b : Board) : (c.withBoard b).board = b := rfl

@[simp] theorem board_next (c : Cursor) : c.next.2.board = c.board := by
  unfold next
  split
  · rfl
  · split <;> rfl

/-! ## Runs -/

/-- The number of requests to move on. -/
def moves (calls : List Call) : Nat :=
  calls.countP fun
    | .next => true
    | _ => false

theorem moves_next (calls : List Call) : moves (.next :: calls) = moves calls + 1 := List.countP_cons_of_pos rfl

theorem moves_write (change : Board → Board) (calls : List Call) : moves (.write change :: calls) = moves calls :=
  List.countP_cons_of_neg nofun

theorem moves_ask (q : Query) (calls : List Call) : moves (.ask q :: calls) = moves calls :=
  List.countP_cons_of_neg nofun

/-- The replies to the requests to move on. -/
def found (replies : List Reply) : List Bool :=
  replies.filterMap fun
    | .moved b => some b
    | _ => none

theorem run_ask (c : Cursor) (q : Query) (calls : List Call) :
    c.run (.ask q :: calls) = (c.answer q :: (c.run calls).1, (c.run calls).2) := rfl

theorem found_answer (c : Cursor) (q : Query) (replies : List Reply) : found (c.answer q :: replies) = found replies := by
  cases q <;> rfl

/-- What the renderer's writes make of a board. -/
def written (b : Board) (calls : List Call) : Board :=
  calls.foldl (fun b call => match call with
    | .write change => change b
    | _ => b) b

/-- What the accessors answer: on a candidate they show it at the scale of the moment, and elsewhere
they say where the cursor stands. -/
def Shows (candidate? : Nat → Option Placement) (c : Cursor) : Prop :=
  match c.state with
  | .positioned i => ∃ p, candidate? i = some p ∧ c.placement = .ok p ∧
      c.labelSpacing = .ok (p.labelSpacing * c.scale) ∧
      c.minimumDistance = .ok (p.minimumDistance * c.scale) ∧
      c.minimumPadding = .ok (p.minimumPadding * c.scale) ∧
      c.displacement = .ok ⟨p.displacement.dx * c.scale, p.displacement.dy * c.scale⟩ ∧
      ∀ f, c.label f = .ok (p.label f)
  | s => c.placement = .error ⟨s⟩ ∧ c.labelSpacing = .error ⟨s⟩ ∧ c.minimumDistance = .error ⟨s⟩ ∧
      c.minimumPadding = .error ⟨s⟩ ∧ c.displacement = .error ⟨s⟩ ∧ ∀ f, c.label f = .error ⟨s⟩

/-! ## The state and the candidate kept beside it agree -/

/-- A cursor over given candidates that was asked `k` times to move on. -/
structure Follows (candidate? : Nat → Option Placement) (k : Nat) (c : Cursor) : Prop where
  source : c.candidate? = candidate?
  state : c.state = State.after (extent candidate?) k
  current : c.current = c.state.index?.bind candidate?

variable {candidate? : Nat → Option Placement} {k : Nat} {c : Cursor}

theorem follows_ofSource {σ : Type} [CandidateSource σ] (source : σ) (scale : Float)
    (dimensions : Option Dimensions) :
    Follows (CandidateSource.candidate? source) 0 (ofSource source scale dimensions) where
  source := rfl
  state := rfl
  current := rfl

theorem accessors_of_placement {r : Except NotPositioned Placement} (h : c.placement = r) :
    c.labelSpacing = r.map (·.labelSpacing * c.scale) ∧
    c.minimumDistance = r.map (·.minimumDistance * c.scale) ∧
    c.minimumPadding = r.map (·.minimumPadding * c.scale) ∧
    c.displacement = r.map (·.displacement.scaled c.scale) ∧
    ∀ f, c.label f = r.map (·.label f) := by
  unfold labelSpacing minimumDistance minimumPadding displacement label
  rw [h]
  cases r <;> exact ⟨rfl, rfl, rfl, rfl, fun _ => rfl⟩

namespace Follows

theorem withBoard (h : Follows candidate? k c) (b : Board) : Follows candidate? k (c.withBoard b) :=
  ⟨h.source, h.state, h.current⟩

/-- Moving on succeeds exactly if there were not too many requests before. -/
theorem next (h : Follows candidate? k c) :
    c.next.1 = decide ((k : ℕ∞) < extent candidate?) ∧ Follows candidate? (k + 1) c.next.2 := by
  have hup := State.upcoming?_after (extent candidate?) k
  by_cases hk : (k : ℕ∞) ≤ extent candidate?
  · rw [← h.state, if_pos hk] at hup
    have hlt := lt_extent_iff_of_le hk
    cases hc : candidate? k with
    | some p =>
      have hn : c.next = (true, { c with state := .positioned k, current := some p }) := by
        simp only [Cursor.next, hup, h.source, hc]
      have hlt : (k : ℕ∞) < extent candidate? := hlt.2 (by simp [hc])
      rw [hn]
      exact ⟨by simp [hlt], h.source, by simp [State.after, hlt], by simp [State.index?, hc]⟩
    | none =>
      have hn : c.next = (false, { c with state := .exhausted, current := none }) := by
        simp only [Cursor.next, hup, h.source, hc]
      have hlt : ¬ (k : ℕ∞) < extent candidate? := fun hk' => hlt.1 hk' hc
      rw [hn]
      exact ⟨by simp [hlt], h.source, by simp [State.after, hlt], rfl⟩
  · rw [← h.state, if_neg hk] at hup
    have hn : c.next = (false, c) := by simp only [Cursor.next, hup]
    have hlt : ¬ (k : ℕ∞) < extent candidate? := fun hk' => hk hk'.le
    have hstate : c.state = .exhausted := by rw [h.state, State.after_of_not_le hk]
    rw [hn]
    exact ⟨by simp [hlt], h.source, by simp [State.after, hlt, hstate], h.current⟩

/-- No stale candidate is shown. -/
theorem shows (h : Follows candidate? k c) : Shows candidate? c := by
  have hcurrent := h.current
  unfold Shows
  split
  · rename_i i hi
    have hlt := State.lt_of_after_eq_positioned (h.state ▸ hi)
    obtain ⟨p, hp⟩ := Option.ne_none_iff_exists'.1 (lt_extent_iff.1 hlt i le_rfl)
    have hplacement : c.placement = .ok p := by
      rw [hi] at hcurrent
      simp [placement, hcurrent, State.index?, hp]
    exact ⟨p, hp, hplacement, accessors_of_placement hplacement⟩
  · rename_i hs
    have hnone : c.current = none := by
      rw [hcurrent]
      cases hstate : c.state with
      | positioned i => exact absurd hstate (hs i)
      | _ => rfl
    have hplacement : c.placement = .error ⟨c.state⟩ := by simp [placement, hnone]
    exact ⟨hplacement, accessors_of_placement hplacement⟩

theorem run (h : Follows candidate? k c) (calls : List Call) :
    found (c.run calls).1 = (List.range' k (moves calls)).map (fun i : Nat => decide ((i : ℕ∞) < extent candidate?)) ∧
    Follows candidate? (k + moves calls) (c.run calls).2 := by
  induction calls generalizing c k with
  | nil => exact ⟨rfl, h⟩
  | cons call calls ih =>
    cases call with
    | next =>
      obtain ⟨hfound, hnext⟩ := h.next
      obtain ⟨hrest, hfollows⟩ := ih hnext
      rw [moves_next, List.range'_succ, List.map_cons, ← hrest, ← hfound, ← Nat.succ_add_eq_add_succ]
      exact ⟨rfl, hfollows⟩
    | write change =>
      rw [moves_write]
      exact ih (h.withBoard (change c.board))
    | ask q =>
      rw [moves_ask, run_ask, found_answer]
      exact ih h

end Follows

theorem board_run (c : Cursor) (calls : List Call) : (c.run calls).2.board = written c.board calls := by
  induction calls generalizing c with
  | nil => rfl
  | cons call calls ih =>
    rw [run, ih, written, written, List.foldl_cons]
    cases call with
    | next => rw [perform, board_next]
    | write change => rw [perform, board_withBoard]
    | ask q => rfl

/-- A call is answered by the cursor that the calls before it have left. -/
theorem getElem?_run (c : Cursor) (earlier later : List Call) (call : Call) :
    (c.run (earlier ++ call :: later)).1[earlier.length]? = some ((c.run earlier).2.perform call).1 := by
  induction earlier generalizing c with
  | nil => rfl
  | cons first earlier ih => exact ih (c.perform first).2

/-- Over `n` candidates the first `n` requests to move on succeed and no later one does. The number of
these requests decides where the cursor stands. What belongs to the renderer is what it has last
written, and the accessors show the candidate on which the cursor stands. Each call in the middle of a
run is answered by the cursor that the earlier calls have left, of which the same holds. -/
theorem run_ofSource {σ : Type} [CandidateSource σ] (source : σ) (scale : Float) (dimensions : Option Dimensions)
    (calls : List Call) :
    let candidate? := CandidateSource.candidate? source
    let start := ofSource source scale dimensions
    let c := (start.run calls).2
    found (start.run calls).1 = (List.range (moves calls)).map (fun i : Nat => decide ((i : ℕ∞) < extent candidate?)) ∧
    c.state = State.after (extent candidate?) (moves calls) ∧
    c.board = written start.board calls ∧
    Shows candidate? c ∧
    ∀ (earlier later : List Call) (call : Call), calls = earlier ++ call :: later →
      (start.run calls).1[earlier.length]? = some ((start.run earlier).2.perform call).1 := by
  intro candidate? start c
  obtain ⟨hfound, hfollows⟩ := (follows_ofSource source scale dimensions).run calls
  refine ⟨?_, ?_, board_run start calls, hfollows.shows, ?_⟩
  · rw [List.range_eq_range']
    exact hfound
  · rw [hfollows.state, Nat.zero_add]
  · rintro earlier later call rfl
    exact getElem?_run start earlier later call

end MapLabel.Cursor
