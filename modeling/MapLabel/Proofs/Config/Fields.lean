import MapLabel.Proofs.Config.Laws
import MapLabel.Proofs.Placement.Numbers
/-!
# The laws of the records in style files

Styles, placements, the patches to them and lists of candidates are all records of lawful fields. Their
fields have keys of their own and do not get in each other's way, so they are lawful themselves, and what is
written for them is finite exactly if their numbers are.
-/

namespace MapLabel

/-! ## What is left without contents and orientations -/

def Placement.bare (p : Placement) : Placement := { p with content := none, orientation := none }

def Placement.Patch.bare (a : Placement.Patch) : Placement.Patch := { a with content := none, orientation := none }

def Candidates.bare (c : Candidates) : Candidates := ⟨c.defaults.bare, c.patches.map Placement.Patch.bare⟩

namespace Config

open Codec

/-! ## Displacements and dimensions -/

instance : displacement.Lawful id :=
  lawful_of_reshaped (numberPair_lawful (by decide)) (fun p => ⟨p.1, p.2⟩) (fun d => (d.dx, d.dy))
    (fun _ => rfl) (fun _ => rfl) (fun _ => rfl) fun _ => rfl

instance : dimensions.Lawful id :=
  lawful_of_reshaped (numberPair_lawful (by decide)) (fun p => ⟨p.1, p.2⟩) (fun d => (d.width, d.height))
    (fun _ => rfl) (fun _ => rfl) (fun _ => rfl) fun _ => rfl

instance : displacement.NeverNull := ⟨nofun⟩

theorem displacement_write_finite_iff {d : Displacement} :
    (displacement.write d).Finite ↔ ∀ x ∈ d.numbers, x.isFinite := by
  simp [displacement, numberPair_write_finite_iff, Displacement.numbers]

theorem dimensions_write_finite_iff {d : Dimensions} :
    (dimensions.write d).Finite ↔ ∀ x ∈ d.numbers, x.isFinite := by
  simp [dimensions, numberPair_write_finite_iff, Dimensions.numbers]

/-! ## Styles -/

theorem styleFields_separate : Separate styleFields where
  keys := by decide
  apart := by
    simp only [styleFields, List.pairwise_cons, List.forall_mem_cons, List.not_mem_nil, false_imp_iff, implies_true,
      List.Pairwise.nil, and_true]
    and_intros <;> exact Field.apart_of (fun _ _ _ => rfl) (fun _ _ => rfl) fun _ _ => rfl

theorem style_write_finite_iff {s : Style} : (style.write s).Finite ↔ ∀ x ∈ s.numbers, x.isFinite := by
  simp [style, write_record_finite_iff, styleFields, Style.numbers]

instance : style.Lawful id := by
  apply record_lawful styleFields_separate
  case hfields =>
    -- Each field is lawful by the instance for its codec, and so says what it puts into a style.
    repeat apply List.Forall₂.cons (lawful_of fun _ _ => rfl)
    exact .nil
  case hstart => exact style_write_finite_iff.2 (by decide)
  case hbare =>
    intro s
    simp

/-! ## Patches and placements -/

theorem stylePatchFields_separate : Separate stylePatchFields where
  keys := by decide
  apart := by
    simp only [stylePatchFields, List.pairwise_cons, List.forall_mem_cons, List.not_mem_nil, false_imp_iff,
      implies_true, List.Pairwise.nil, and_true]
    and_intros <;> exact Field.apart_of (fun _ _ _ => rfl) (fun _ _ => rfl) fun _ _ => rfl

theorem stylePatch_write_finite_iff {p : Style.Patch} :
    (stylePatch.write p).Finite ↔ ∀ x ∈ p.numbers, x.isFinite := by
  simp [stylePatch, write_record_finite_iff, stylePatchFields, Style.Patch.numbers, forall_mem_reduceOption]

instance : stylePatch.Lawful id := by
  apply record_lawful stylePatchFields_separate
  case hfields =>
    repeat apply List.Forall₂.cons (lawful_of fun _ _ => rfl)
    exact .nil
  case hstart => exact stylePatch_write_finite_iff.2 (by decide)
  case hbare =>
    intro p
    simp

theorem placementFields_separate : Separate placementFields where
  keys := by decide
  apart := by
    simp only [placementFields, List.pairwise_cons, List.forall_mem_cons, List.not_mem_nil, false_imp_iff, implies_true,
      List.Pairwise.nil, and_true]
    and_intros <;> exact Field.apart_of (fun _ _ _ => rfl) (fun _ _ => rfl) fun _ _ => rfl

theorem placement_write_finite_iff {p : Placement} : (placement.write p).Finite ↔ ∀ x ∈ p.numbers, x.isFinite := by
  simp [placement, write_record_finite_iff, placementFields, Placement.numbers, style_write_finite_iff,
    displacement_write_finite_iff, or_imp, forall_and]

instance : placement.Lawful Placement.bare := by
  apply record_lawful placementFields_separate
  case hfields =>
    repeat apply List.Forall₂.cons (lawful_of fun _ _ => rfl)
    exact .nil
  case hstart => exact placement_write_finite_iff.2 (by decide)
  case hbare =>
    intro p
    simp [Placement.bare]

theorem placementPatchFields_separate : Separate placementPatchFields where
  keys := by decide
  apart := by
    simp only [placementPatchFields, List.pairwise_cons, List.forall_mem_cons, List.not_mem_nil, false_imp_iff,
      implies_true, List.Pairwise.nil, and_true]
    and_intros <;> exact Field.apart_of (fun _ _ _ => rfl) (fun _ _ => rfl) fun _ _ => rfl

theorem placementPatch_write_finite_iff {a : Placement.Patch} :
    (placementPatch.write a).Finite ↔ ∀ x ∈ a.numbers, x.isFinite := by
  simp only [Placement.Patch.numbers, List.forall_mem_append, List.forall_mem_flatMap, Option.mem_toList,
    forall_mem_reduceOption]
  simp [placementPatch, write_record_finite_iff, placementPatchFields, stylePatch_write_finite_iff,
    displacement_write_finite_iff, and_assoc]

instance : placementPatch.Lawful Placement.Patch.bare := by
  apply record_lawful placementPatchFields_separate
  case hfields =>
    repeat apply List.Forall₂.cons (lawful_of fun _ _ => rfl)
    exact .nil
  case hstart => exact placementPatch_write_finite_iff.2 (by decide)
  case hbare =>
    intro a
    simp only [List.foldl_cons, List.foldl_nil, Option.map_id, id, Placement.Patch.bare]
    rfl

/-! ## Lists of candidates -/

theorem rawCandidates_write_finite_iff {c : Candidates} : (rawCandidates.write c).Finite ↔
    (∀ x ∈ c.defaults.numbers, x.isFinite) ∧ ∀ a ∈ c.patches, ∀ x ∈ a.numbers, x.isFinite := by
  simp [rawCandidates, write_record_finite_iff, placement_write_finite_iff, placementPatch_write_finite_iff]

instance : rawCandidates.Lawful Candidates.bare := by
  refine record_lawful ⟨by decide, ?apart⟩ (.cons (lawful_of fun _ _ => rfl) <| .cons (lawful_of fun _ _ => rfl) .nil)
    (rawCandidates_write_finite_iff.2 (by decide)) fun _ => rfl
  exact List.pairwise_pair.2 (Field.apart_of (fun _ _ _ => rfl) (fun _ _ => rfl) fun _ _ => rfl)

end Config

end MapLabel
