import MapLabel.Proofs.Checks
import MapLabel.Proofs.Placement.History
import Mathlib.Data.List.TakeWhile
/-!
# Building a list of candidates

A list of candidates is built from all that was given or not at all. `built_whole_or_refused`: whether the
parts come at once, one after the other or from a file, the list is the one that was asked for if it passes
the check as a whole. Else the error is that of the first part which does not, the defaults before the
candidates and these in their order.

Parts are checked while the list grows, the list as a whole is checked when it is there. Both come down to
one pass over the same row (`foldlM_push_eq`), so the same fault comes first.
-/

namespace MapLabel.Candidates

/-! ## The first fault of a list -/

theorem validate_eq_error_iff {c : Candidates} {err : PlacementError} :
    c.validate = .error err ↔ c.defaults.validate = .error err ∨
      c.defaults.validate = .ok () ∧ FirstFailure Placement.Patch.validate c.patches err := by
  rw [validate, ← forM_eq_error_iff]
  cases c.defaults.validate with
  | error => simp [bind, Except.bind]
  | ok => simp [bind, Except.bind]

theorem ofPatches_eq_error_iff {p : Placement} {patches : List Placement.Patch} {err : PlacementError} :
    ofPatches p patches = .error err ↔ validate ⟨p, patches⟩ = .error err := by
  rw [ofPatches_eq]
  cases validate ⟨p, patches⟩ <;> simp [Except.map]

/-! ## Building one by one -/

/-- The candidates before the first invalid one are in the list in the end. -/
theorem pushEach_eq (c : Candidates) (patches : List Placement.Patch) :
    c.pushEach patches = (patches.forM Placement.Patch.validate,
      { c with patches := c.patches ++ patches.takeWhile (·.validate.isOk) }) := by
  induction patches generalizing c with
  | nil => simp [pushEach, pure, Except.pure]
  | cons a patches ih =>
    rw [pushEach, List.forM, List.takeWhile_cons]
    rcases push_cases c a with ⟨ha, hpush⟩ | ⟨err, ha, hpush⟩
    · rw [ha, hpush]
      dsimp only
      rw [ih]
      simp [bind, Except.bind, Except.isOk, Except.toBool]
    · rw [ha, hpush]
      simp [bind, Except.bind, Except.isOk, Except.toBool]

theorem takeWhile_isOk_eq_self {patches : List Placement.Patch} (h : patches.forM Placement.Patch.validate = .ok ()) :
    patches.takeWhile (·.validate.isOk) = patches := by
  refine List.takeWhile_eq_self_iff.2 fun a ha => ?_
  rw [forM_eq_ok_iff.1 h a ha]
  rfl

theorem grow_eq_ofPatches (p : Placement) (patches : List Placement.Patch) : grow p patches = ofPatches p patches := by
  rw [ofPatches_eq, grow, ofDefaults, validate]
  cases p.validate with
  | error => rfl
  | ok =>
    simp only [bind, Except.bind, pure, Except.pure, pushEach_eq, List.nil_append]
    cases h : patches.forM Placement.Patch.validate with
    | error => rfl
    | ok => rw [takeWhile_isOk_eq_self h]; rfl

/-! ## Building from a file -/

theorem read_eq_of_raw {v : Config.Value} {raw : Candidates} (h : Config.rawCandidates.read v = .ok raw) :
    Config.candidates.read v = (ofPatches raw.defaults raw.patches).mapError .placement := by
  simp [Config.candidates, h, bind, Except.bind]

/-- A list is built exactly if it passes the check as a whole, and then nothing is left out or changed. Else the
error is that of the check, which is the one of the defaults if they are invalid and that of the first invalid
candidate if not. Pushing the candidates one by one comes to the same, and stops with those in the list that
stand before the first invalid one. So does reading the list from a file, with the same message. -/
theorem built_whole_or_refused (p : Placement) (patches : List Placement.Patch) :
    let raw : Candidates := ⟨p, patches⟩
    (∀ c, ofPatches p patches = .ok c ↔ raw.validate = .ok () ∧ c = raw) ∧
    (∀ err, ofPatches p patches = .error err ↔ raw.validate = .error err) ∧
    (∀ err, raw.validate = .error err ↔
      p.validate = .error err ∨ p.validate = .ok () ∧ FirstFailure Placement.Patch.validate patches err) ∧
    grow p patches = ofPatches p patches ∧
    pushEach ⟨p, []⟩ patches =
      (patches.forM Placement.Patch.validate, ⟨p, patches.takeWhile (·.validate.isOk)⟩) ∧
    ∀ v, Config.rawCandidates.read v = .ok raw →
      (∀ c, Config.candidates.read v = .ok c ↔ ofPatches p patches = .ok c) ∧
      ∀ refusal, Config.candidates.read v = .error refusal ↔
        ∃ err, ofPatches p patches = .error err ∧ refusal = .placement err ∧ refusal.message? = some err.message := by
  intro raw
  refine ⟨fun c => ?_, fun err => ofPatches_eq_error_iff, fun err => validate_eq_error_iff, grow_eq_ofPatches p patches,
    pushEach_eq ⟨p, []⟩ patches, fun v hv => ⟨fun c => ?_, fun refusal => ?_⟩⟩
  · rw [ofPatches_eq_ok_iff, validate_eq_ok_iff, eq_comm (a := c)]
  · rw [read_eq_of_raw hv, mapError_eq_ok_iff]
  · rw [read_eq_of_raw hv, mapError_eq_error_iff]
    constructor
    · rintro ⟨err, herr, rfl⟩
      exact ⟨err, herr, rfl, rfl⟩
    · rintro ⟨err, herr, rfl, -⟩
      exact ⟨err, herr, rfl⟩

/-- Of two invalid candidates the first one is reported, and those before it are in a list built one by one. -/
theorem built_whole_or_refused_negativeSpacing :
    let patches : List Placement.Patch :=
      [∅, .withTextSize ∅ 8, { labelSpacing := some (-1) }, { style := { opacity := some 3 } }]
    let v : Config.Value := .record [("alternatives", .list
      [.record [], .record [("format", .record [("text_size", .number 8)])],
        .record [("label_spacing", .number (-1))], .list [.record [("opacity", .number 3)]]])]
    Config.rawCandidates.read v = .ok ⟨{}, patches⟩ ∧
      Config.candidates.read v = .error (.placement (.property .labelSpacing (.negative (-1)))) ∧
      grow {} patches = .error (.property .labelSpacing (.negative (-1))) ∧
      (pushEach ⟨{}, []⟩ patches).2.patches = [∅, .withTextSize ∅ 8] := by
  intro patches v
  have hv : Config.rawCandidates.read v = .ok ⟨{}, patches⟩ := rfl
  obtain ⟨-, herror, hfirst, hgrow, hpushed, hfile⟩ := built_whole_or_refused {} patches
  have hfault : FirstFailure Placement.Patch.validate patches (.property .labelSpacing (.negative (-1))) := by
    refine ⟨[∅, .withTextSize ∅ 8], { labelSpacing := some (-1) }, [{ style := { opacity := some 3 } }], rfl, ?_, rfl⟩
    simpa using ⟨⟨(), rfl⟩, (), rfl⟩
  have hbuild := (herror _).2 ((hfirst _).2 (.inr ⟨rfl, hfault⟩))
  refine ⟨hv, ((hfile v hv).2 _).2 ⟨_, hbuild, rfl, rfl⟩, hgrow.trans hbuild, ?_⟩
  rw [hpushed]
  rfl

end MapLabel.Candidates
