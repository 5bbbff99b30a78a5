import MapLabel.Labeler.Sharing
import MapLabel.Proofs.Checks
import Mathlib.Data.List.Perm.Basic
/-!
# Cells and their owners

Each cell counts the pointers that lead to it (`Counts`), and every operation on cells keeps to that. If
the count is one, nobody else looks at the cell, so an edit in place is seen by its owner alone, as an edit
of a copy is (`edit_cases`). The owners of other pointers see what they saw.
-/

namespace MapLabel

/-! ## Sources that a refused edit leaves alone -/

/-- Sources that are the same after a refused replacement of their defaults as before. -/
class SteadySource (σ : Type) [CandidateSource σ] : Prop where
  setDefaults_refused {source : σ} {p : Placement} {e : PlacementError} :
    (CandidateSource.setDefaults source p).1 = .error e → (CandidateSource.setDefaults source p).2 = source

instance : SteadySource Candidates := ⟨editing_refused⟩

instance : SteadySource Zigzag := ⟨editing_refused⟩

instance : SteadySource Shrinking := ⟨editing_refused⟩

instance : SteadySource AnySource where
  setDefaults_refused {source p e} h := by
    cases source with
    | candidates c => exact congrArg AnySource.candidates (SteadySource.setDefaults_refused h)
    | zigzag z => exact congrArg AnySource.zigzag (SteadySource.setDefaults_refused h)
    | shrinking s => exact congrArg AnySource.shrinking (SteadySource.setDefaults_refused h)

theorem Labeler.edit_eq_setDefaults {σ : Type} [CandidateSource σ] [SteadySource σ] (source : σ) (p : Placement) :
    Labeler.edit source p = CandidateSource.setDefaults source p := by
  rcases h : CandidateSource.setDefaults source p with ⟨_ | _, source'⟩
  · have hkept := SteadySource.setDefaults_refused (σ := σ) (congrArg Prod.fst h)
    rw [h] at hkept
    rw [Labeler.edit, h, ← hkept]
  · rw [Labeler.edit, h]

/-! ## Cells count their owners -/

namespace Heap

variable {σ : Type} {h : Heap σ} {a b : Nat} {as bs : List Nat} {source : σ}

/-- The owners of cells are the pointers `as`, of which none dangles. -/
structure Counts (h : Heap σ) (as : List Nat) : Prop where
  owners : ∀ a c, h.cells[a]? = some c → c.owners = as.count a
  allocated : ∀ a ∈ as, a < h.cells.length

theorem Counts.perm (hc : h.Counts as) (hp : as.Perm bs) : h.Counts bs where
  owners a c hcell := by rw [hc.owners a c hcell, hp.count_eq]
  allocated a ha := hc.allocated a (hp.mem_iff.2 ha)

/-- Counting does not touch the sources. -/
theorem source?_modify (h : Heap σ) (a : Nat) {f : Cell σ → Cell σ} (hf : ∀ c, (f c).source = c.source) :
    source? ⟨h.cells.modify a f⟩ = h.source? := by
  funext b
  rw [source?, source?, List.getElem?_modify]
  cases h.cells[b]? with
  | none => rfl
  | some c => by_cases hab : a = b <;> simp [hab, hf]

theorem source?_retain (h : Heap σ) (a : Nat) : (h.retain a).source? = h.source? := source?_modify h a fun _ => rfl

theorem source?_release (h : Heap σ) (a : Nat) : (h.release a).source? = h.source? := source?_modify h a fun _ => rfl

theorem lt_of_source? (hs : h.source? a = some source) : a < h.cells.length := by
  obtain ⟨c, hcell, -⟩ := Option.map_eq_some_iff.1 hs
  exact (List.getElem?_eq_some_iff.1 hcell).1

theorem source?_allocate_of_lt (source : σ) (ha : a < h.cells.length) :
    (h.allocate source).2.source? a = h.source? a := by
  rw [source?, source?, allocate, List.getElem?_append_left ha]

theorem source?_allocate (h : Heap σ) (source : σ) :
    (h.allocate source).2.source? (h.allocate source).1 = some source := by
  simp [source?, allocate]

theorem Counts.retain (hc : h.Counts as) (ha : a < h.cells.length) : (h.retain a).Counts (a :: as) where
  owners b c hcell := by
    rw [Heap.retain, List.getElem?_modify] at hcell
    obtain ⟨d, hd, rfl⟩ := Option.map_eq_some_iff.1 hcell
    have hcount := hc.owners b d hd
    by_cases hab : a = b
    · subst hab
      rw [if_pos rfl, List.count_cons_self, ← hcount]
    · rw [if_neg hab, hcount, List.count_cons_of_ne hab]
  allocated b hb := by
    rw [Heap.retain, List.length_modify]
    rcases List.mem_cons.1 hb with rfl | hb
    · exact ha
    · exact hc.allocated b hb

theorem Counts.release (hc : h.Counts (a :: as)) : (h.release a).Counts as where
  owners b c hcell := by
    rw [Heap.release, List.getElem?_modify] at hcell
    obtain ⟨d, hd, rfl⟩ := Option.map_eq_some_iff.1 hcell
    have hcount := hc.owners b d hd
    by_cases hab : a = b
    · subst hab
      rw [List.count_cons_self] at hcount
      rw [if_pos rfl]
      exact Nat.sub_eq_of_eq_add hcount
    · rw [if_neg hab, hcount, List.count_cons_of_ne hab]
  allocated b hb := by
    rw [Heap.release, List.length_modify]
    exact hc.allocated b (List.mem_cons_of_mem a hb)

theorem Counts.allocate (hc : h.Counts as) (source : σ) :
    (h.allocate source).2.Counts ((h.allocate source).1 :: as) where
  owners b c hcell := by
    have hfresh : h.cells.length ∉ as := fun hmem => Nat.lt_irrefl _ (hc.allocated _ hmem)
    rcases Nat.lt_trichotomy b h.cells.length with hb | rfl | hb
    · rw [Heap.allocate, List.getElem?_append_left hb] at hcell
      rw [hc.owners b c hcell, Heap.allocate, List.count_cons_of_ne (Nat.ne_of_gt hb)]
    · simp only [Heap.allocate, List.getElem?_concat_length, Option.some.injEq] at hcell
      rw [← hcell, Heap.allocate, List.count_cons_self, List.count_eq_zero_of_not_mem hfresh]
    · rw [Heap.allocate, List.getElem?_eq_none (by simp; omega)] at hcell
      cases hcell
  allocated b hb := by
    rw [Heap.allocate, List.length_append]
    rcases List.mem_cons.1 hb with rfl | hb
    · exact Nat.lt_succ_self _
    · exact Nat.lt_succ_of_lt (hc.allocated b hb)

theorem source?_foldl_release (h : Heap σ) (as : List Nat) : (as.foldl release h).source? = h.source? := by
  induction as generalizing h with
  | nil => rfl
  | cons a as ih => rw [List.foldl_cons, ih, source?_release]

theorem Counts.foldl_release (hc : h.Counts (as ++ bs)) : (as.foldl Heap.release h).Counts bs := by
  induction as generalizing h with
  | nil => exact hc
  | cons a as ih => exact ih hc.release

/-- A cell whose count is one has no other owner. -/
theorem Counts.not_mem_of_sole {c : Cell σ} (hc : h.Counts (a :: as)) (hcell : h.cells[a]? = some c)
    (hone : c.owners = 1) : a ∉ as := by
  have hcount := hc.owners a c hcell
  rw [hone, List.count_cons_self] at hcount
  exact List.count_eq_zero.1 (by omega)

theorem Counts.setSource {c : Cell σ} (hc : h.Counts as) (hcell : h.cells[a]? = some c) (source : σ) :
    Counts ⟨h.cells.set a { c with source }⟩ as where
  owners b d hd := by
    by_cases hab : a = b
    · subst hab
      rw [List.getElem?_set_self (List.getElem?_eq_some_iff.1 hcell).1, Option.some.injEq] at hd
      rw [← hd]
      exact hc.owners a c hcell
    · rw [List.getElem?_set_ne hab] at hd
      exact hc.owners b d hd
  allocated b hb := by
    rw [List.length_set]
    exact hc.allocated b hb

/-- An edit through one pointer has the outcome that its source gives. The pointer leads to what the source is
after that, refused or not, if nobody else has it, and to what an edit of one's own makes of the source
otherwise. The sources behind the other pointers stay as they are. -/
theorem edit_cases [CandidateSource σ] (hc : h.Counts (a :: as)) (hs : h.source? a = some source) (p : Placement) :
    ∃ b h' after, h.edit a p = ((CandidateSource.setDefaults source p).1, b, h') ∧ h'.Counts (b :: as) ∧
      h'.source? b = some after ∧ (a ∉ as → after = (CandidateSource.setDefaults source p).2) ∧
      (a ∈ as → after = (Labeler.edit source p).2) ∧ ∀ a' ∈ as, h'.source? a' = h.source? a' := by
  obtain ⟨c, hcell, rfl⟩ := Option.map_eq_some_iff.1 hs
  simp only [edit, hcell]
  by_cases hone : c.owners = 1
  · have hsole := hc.not_mem_of_sole hcell hone
    refine ⟨a, _, _, if_pos hone, hc.setSource hcell _, ?_, fun _ => rfl, fun ha => absurd ha hsole, fun a' ha' => ?_⟩
    · rw [source?, List.getElem?_set_self (lt_of_source? hs)]
      rfl
    · have hne : a ≠ a' := fun he => hsole (he ▸ ha')
      rw [source?, source?, List.getElem?_set_ne hne]
  · have hshared : a ∈ as := by
      have hcount := hc.owners a c hcell
      rw [List.count_cons_self] at hcount
      exact List.count_pos_iff.1 (by omega)
    rw [if_neg hone]
    rcases hedit : CandidateSource.setDefaults c.source p with ⟨e | _, left⟩
    · -- The copy is thrown away.
      exact ⟨a, h, _, rfl, hc, hs, fun ha => absurd hshared ha, fun _ => by rw [Labeler.edit, hedit], fun _ _ => rfl⟩
    · refine ⟨_, _, _, rfl, hc.release.allocate _, source?_allocate _ _, fun ha => absurd hshared ha,
        fun _ => by rw [Labeler.edit, hedit], fun a' ha' => ?_⟩
      rw [source?_allocate_of_lt _ (hc.release.allocated a' ha'), source?_release]

/-- A refused edit of a steady source leaves the cells as they are. -/
theorem edit_refused [CandidateSource σ] [SteadySource σ] {p : Placement} {e : PlacementError}
    (hs : h.source? a = some source) (he : (CandidateSource.setDefaults source p).1 = .error e) :
    h.edit a p = (.error e, a, h) := by
  obtain ⟨c, hcell, rfl⟩ := Option.map_eq_some_iff.1 hs
  have hset : CandidateSource.setDefaults c.source p = (.error e, c.source) :=
    Prod.ext he (SteadySource.setDefaults_refused he)
  simp only [edit, hcell, hset]
  have hcells : h.cells.set a c = h.cells := by
    obtain ⟨ha, rfl⟩ := List.getElem?_eq_some_iff.1 hcell
    exact List.set_getElem_self ha
  split
  · rw [hcells]
  · rfl

end Heap

end MapLabel
