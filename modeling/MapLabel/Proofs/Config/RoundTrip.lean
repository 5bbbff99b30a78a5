import MapLabel.Proofs.Config.Fields
import MapLabel.Proofs.Placement.History
/-!
# Style files keep what is saved in them

Whatever is saved in a style file is read again as it was, but for contents and orientations, which have no
place in a file. `saved_values_survive` states this for all that can be saved, in every form in which it may
stand in the file. Numbers have to be finite for this, as a file has null in place of the others. In a list
of candidates they are, as it was checked.
-/

namespace MapLabel

/-! ## Candidates without contents and orientations -/

theorem Placement.bare_eq_self {p : Placement} (h : p.content = none ∧ p.orientation = none) : p.bare = p := by
  obtain ⟨hcontent, horientation⟩ := h
  cases p
  cases hcontent
  cases horientation
  rfl

theorem Placement.Patch.bare_eq_self {a : Placement.Patch} (h : a.content = none ∧ a.orientation = none) :
    a.bare = a := by
  obtain ⟨hcontent, horientation⟩ := h
  cases a
  cases hcontent
  cases horientation
  rfl

namespace Candidates

/-- The list was obtained in one of the possible ways and then edited, whatever became of the edits. -/
def Reachable (c : Candidates) : Prop :=
  ∃ (o : Origin) (d : Candidates) (es : List Edit), o.list? = some d ∧ (run d es).2 = c

theorem Reachable.valid {c : Candidates} (h : c.Reachable) : c.Valid := by
  obtain ⟨o, d, es, ho, rfl⟩ := h
  exact run_valid (list?_eq_some ho).2 es

/-- Contents and orientations are not checked. -/
theorem Valid.bare {c : Candidates} (h : c.Valid) : c.bare.Valid :=
  ⟨h.1, List.forall_mem_map.2 h.2⟩

end Candidates

namespace Config

open Codec

/-! ## What is kept -/

/-- The values with the property `P` are read as they were saved and in any other form of what is saved, up to
what has no place in a file. What a file holds stays the same when it is read and saved again. -/
structure Codec.Keeps {α : Type} (c : Codec α) (P : α → Prop) (bare : α → α) : Prop where
  saved : ∀ a, P a → c.read (c.save a) = .ok (bare a)
  form : ∀ a v, P a → (c.write a).HasForm v → c.read v = .ok (bare a)
  again : ∀ v a, v.Finite → c.read v = .ok a → c.read (c.save a) = .ok a

theorem Codec.keeps_of_lawful {α : Type} {c : Codec α} {bare : α → α} [hc : c.Lawful bare] {P : α → Prop}
    (hfinite : ∀ a, P a → (c.write a).Finite) (hbare : ∀ v a, c.read v = .ok a → bare a = a) : c.Keeps P bare where
  saved a ha := hc.read_form (hfinite a ha) (Value.hasForm_stored (hfinite a ha))
  form a _ ha h := hc.read_form (hfinite a ha) h
  again v a hv h := by
    have hwrite := hc.write_finite hv h
    rw [Codec.save, hc.read_form hwrite (Value.hasForm_stored hwrite), hbare v a h]

theorem rawCandidates_keeps : rawCandidates.Keeps Candidates.Valid Candidates.bare := by
  refine keeps_of_lawful (fun c hc => ?_) fun v c h => ?_
  · exact rawCandidates_write_finite_iff.2 ⟨hc.1.numbers_finite, fun a ha => (hc.2 a ha).numbers_finite⟩
  · obtain ⟨hdefaults, hpatches⟩ := rawCandidates_bare h
    have hmap : c.patches.map Placement.Patch.bare = c.patches := by
      simpa using List.map_congr_left fun a ha => Placement.Patch.bare_eq_self (hpatches a ha)
    rw [Candidates.bare, Placement.bare_eq_self hdefaults, hmap]

theorem candidates_read_eq_ok_iff {v : Value} {c : Candidates} :
    candidates.read v = .ok c ↔ rawCandidates.read v = .ok c ∧ c.Valid := by
  simp only [candidates, bind_eq_ok_iff, mapError_eq_ok_iff, Candidates.ofPatches_eq_ok_iff]
  constructor
  · rintro ⟨raw, hraw, hvalid, rfl⟩
    exact ⟨hraw, hvalid⟩
  · rintro ⟨hraw, hvalid⟩
    exact ⟨c, hraw, hvalid, rfl⟩

/-- A list that is reachable passes the check once more when it is read. -/
theorem candidates_keeps : candidates.Keeps Candidates.Reachable Candidates.bare where
  saved c hc := candidates_read_eq_ok_iff.2 ⟨rawCandidates_keeps.saved c hc.valid, hc.valid.bare⟩
  form c v hc h := candidates_read_eq_ok_iff.2 ⟨rawCandidates_keeps.form c v hc.valid h, hc.valid.bare⟩
  again v c hv h := by
    obtain ⟨hraw, hvalid⟩ := candidates_read_eq_ok_iff.1 h
    exact candidates_read_eq_ok_iff.2 ⟨rawCandidates_keeps.again v c hv hraw, hvalid⟩

/-- All that can be saved is kept: colours, choices, and what is made up of them and of finite numbers. Contents
and orientations are left out, wherever they are. -/
theorem saved_values_survive :
    color.Keeps (fun _ => True) id ∧
    displacement.Keeps (fun d => ∀ x ∈ d.numbers, x.isFinite) id ∧
    dimensions.Keeps (fun d => ∀ x ∈ d.numbers, x.isFinite) id ∧
    (choice : Codec TextTransform).Keeps (fun _ => True) id ∧
    (choice : Codec Attachment).Keeps (fun _ => True) id ∧
    (choice : Codec VerticalAlignment).Keeps (fun _ => True) id ∧
    (choice : Codec HorizontalAlignment).Keeps (fun _ => True) id ∧
    (choice : Codec Justification).Keeps (fun _ => True) id ∧
    style.Keeps (fun s => ∀ x ∈ s.numbers, x.isFinite) id ∧
    stylePatch.Keeps (fun p => ∀ x ∈ p.numbers, x.isFinite) id ∧
    placement.Keeps (fun p => ∀ x ∈ p.numbers, x.isFinite) Placement.bare ∧
    placementPatch.Keeps (fun a => ∀ x ∈ a.numbers, x.isFinite) Placement.Patch.bare ∧
    candidates.Keeps Candidates.Reachable Candidates.bare := by
  have hchoice {α : Type} [Choice α] [LawfulChoice α] : (choice : Codec α).Keeps (fun _ => True) id :=
    keeps_of_lawful (fun _ _ => choice_write_finite) fun _ _ _ => rfl
  refine ⟨?color, ?displacement, ?dimensions, hchoice, hchoice, hchoice, hchoice, hchoice, ?style, ?stylePatch,
    ?placement, ?placementPatch, candidates_keeps⟩
  case color => exact keeps_of_lawful (fun _ _ => color_write_finite) fun _ _ _ => rfl
  case displacement => exact keeps_of_lawful (fun _ => displacement_write_finite_iff.2) fun _ _ _ => rfl
  case dimensions => exact keeps_of_lawful (fun _ => dimensions_write_finite_iff.2) fun _ _ _ => rfl
  case style => exact keeps_of_lawful (fun _ => style_write_finite_iff.2) fun _ _ _ => rfl
  case stylePatch => exact keeps_of_lawful (fun _ => stylePatch_write_finite_iff.2) fun _ _ _ => rfl
  case placement =>
    exact keeps_of_lawful (fun _ => placement_write_finite_iff.2) fun _ _ h =>
      Placement.bare_eq_self (placement_bare h)
  case placementPatch =>
    exact keeps_of_lawful (fun _ => placementPatch_write_finite_iff.2) fun _ _ h =>
      Placement.Patch.bare_eq_self (placementPatch_bare h)

/-- A river's name that turns with the river, after a candidate was added that shows it smaller. -/
theorem saved_values_survive_riverName :
    ∃ (p : Placement) (c : Candidates), p.content.isSome ∧ p.orientation.isSome ∧
      (Candidates.run ⟨p, [∅]⟩ [.push (.withTextSize ∅ 8)]).2 = c ∧ c.Reachable ∧
      candidates.read (candidates.save c) = .ok ⟨{ wrapWidth := 40 }, [∅, .withTextSize ∅ 8]⟩ ∧
      displacement.read (.list [.number 3, .number (-0.5)]) = .ok ⟨3, -0.5⟩ := by
  obtain ⟨-, hdisplacement, -, -, -, -, -, -, -, -, -, -, hcandidates⟩ := saved_values_survive
  let p : Placement :=
    { content := some (.text (.field "name")), orientation := some (.field "angle"), wrapWidth := 40 }
  have horigin : (Candidates.Origin.single p).list? = some ⟨p, [∅]⟩ :=
    toOption_eq_some_iff.2 (Candidates.single_eq_ok_iff.2 ⟨by decide, rfl⟩)
  have hreachable : (Candidates.run ⟨p, [∅]⟩ [.push (.withTextSize ∅ 8)]).2.Reachable := ⟨_, _, _, horigin, rfl⟩
  refine ⟨p, _, rfl, rfl, rfl, hreachable, hcandidates.saved _ hreachable, ?_⟩
  -- The two numbers stand there without their keys.
  exact hdisplacement.form ⟨3, -0.5⟩ _ (by decide) (.positional (.cons (.number _) (.cons (.number _) .nil)))

end Config

end MapLabel
