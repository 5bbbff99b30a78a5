import MapLabel.Expression.Basic
import MapLabel.Proofs.Checks
/-!
# When an expression has no value

A feature withholds an attribute that it lacks, or whose value is a number that is not finite. An
expression has a value exactly if none of its attributes is withheld, and else the leftmost one that is
decides the error (`evaluate_eq_error_iff`), however the concatenations around it are nested.
-/

namespace MapLabel

/-! ## Usable attributes -/

/-- Whether a label can show the value. -/
def AttributeValue.Shown : AttributeValue → Prop
  | double x => x.isFinite
  | null | bool _ | integer _ | text _ => True

instance : DecidablePred AttributeValue.Shown
  | .double x => inferInstanceAs (Decidable (x.isFinite = true))
  | .null | .bool _ | .integer _ | .text _ => .isTrue trivial

theorem AttributeValue.labelText_eq_error_iff {v : AttributeValue} {x : Float} :
    v.labelText = .error x ↔ v = .double x ∧ x.isFinite = false := by
  cases v with
  | double y =>
    rw [labelText, double.injEq]
    split
    · rename_i hy
      exact ⟨nofun, fun ⟨hyx, hx⟩ => by rw [hyx, hx] at hy; cases hy⟩
    · rename_i hy
      constructor
      · intro h
        cases h
        exact ⟨rfl, Bool.eq_false_iff.2 hy⟩
      · rintro ⟨rfl, -⟩
        rfl
  | _ => simp [labelText]

namespace Feature

/-- The feature has the attribute, with a value that a label can show. -/
def Usable (f : Feature) (n : String) : Prop := ∃ v ∈ f.attribute? n, v.Shown

instance (f : Feature) (n : String) : Decidable (f.Usable n) :=
  inferInstanceAs (Decidable (∃ v ∈ f.attribute? n, v.Shown))

/-- Why a label cannot use an attribute of the feature. -/
inductive Withholds (f : Feature) (n : String) : EvalError → Prop
  | missing (h : f.attribute? n = none) : Withholds f n (.missing n)
  | malformed {x : Float} (h : f.attribute? n = some (.double x)) (hx : x.isFinite = false) :
    Withholds f n (.malformed n x)

/-- Of the named attributes, the first that is not usable is withheld for the given cause. -/
def FirstWithheld (f : Feature) (names : List String) (cause : EvalError) : Prop :=
  ∃ before n after, names = before ++ n :: after ∧ (∀ m ∈ before, f.Usable m) ∧ f.Withholds n cause

variable {f : Feature} {n : String} {names : List String} {cause : EvalError}

theorem exists_withholds_iff : (∃ cause, f.Withholds n cause) ↔ ¬ f.Usable n := by
  constructor
  · rintro ⟨_, h | ⟨h, hx⟩⟩ ⟨v, hv, hshown⟩
    · simp [h] at hv
    · cases h.symm.trans hv
      simp [AttributeValue.Shown, hx] at hshown
  · intro h
    cases hv : f.attribute? n with
    | none => exact ⟨_, .missing hv⟩
    | some v =>
      cases v with
      | double x => exact ⟨_, .malformed hv (Bool.eq_false_iff.2 fun hx => h ⟨_, hv, hx⟩)⟩
      | _ => exact absurd ⟨_, hv, trivial⟩ h

/-! ## The first attribute withheld -/

theorem not_firstWithheld_nil : ¬ f.FirstWithheld [] cause := by
  simp [FirstWithheld]

theorem firstWithheld_cons_iff :
    f.FirstWithheld (n :: names) cause ↔ f.Withholds n cause ∨ f.Usable n ∧ f.FirstWithheld names cause :=
  exists_first_cons_iff

theorem firstWithheld_singleton_iff : f.FirstWithheld [n] cause ↔ f.Withholds n cause := by
  rw [firstWithheld_cons_iff, or_iff_left fun h => not_firstWithheld_nil h.2]

theorem firstWithheld_append_iff {names' : List String} :
    f.FirstWithheld (names ++ names') cause ↔
      f.FirstWithheld names cause ∨ (∀ m ∈ names, f.Usable m) ∧ f.FirstWithheld names' cause := by
  induction names with
  | nil => simp [not_firstWithheld_nil]
  | cons m names ih =>
    rw [List.cons_append, firstWithheld_cons_iff, firstWithheld_cons_iff, ih, List.forall_mem_cons,
      and_or_left, or_assoc, and_assoc]

/-- All of the attributes are usable exactly if none is the first one withheld. -/
theorem forall_usable_iff : (∀ m ∈ names, f.Usable m) ↔ ∀ cause, ¬ f.FirstWithheld names cause := by
  induction names with
  | nil => simp [not_firstWithheld_nil]
  | cons m names ih =>
    simp only [firstWithheld_cons_iff, not_or, not_and, forall_and, List.forall_mem_cons, ih]
    have hm : (∀ cause, ¬ f.Withholds m cause) ↔ f.Usable m := by
      rw [← not_exists, exists_withholds_iff, Decidable.not_not]
    rw [hm]
    exact and_congr_right fun h => ⟨fun hnames cause _ => hnames cause, fun hnames cause => hnames cause h⟩

theorem exists_firstWithheld_iff : (∃ cause, f.FirstWithheld names cause) ↔ ∃ m ∈ names, ¬ f.Usable m := by
  have h : (∃ cause, f.FirstWithheld names cause) ↔ ¬ ∀ m ∈ names, f.Usable m := by
    rw [forall_usable_iff, Classical.not_forall_not]
  simpa using h

end Feature

/-! ## Evaluation -/

namespace Expression

variable {f : Feature} {cause : EvalError}

theorem evaluate_field_eq_error_iff {n : String} : (field n).evaluate f = .error cause ↔ f.Withholds n cause := by
  rw [evaluate]
  cases hv : f.attribute? n with
  | none =>
    simp only [Except.error.injEq]
    constructor
    · rintro rfl
      exact .missing hv
    · rintro (_ | ⟨h, -⟩)
      · rfl
      · cases hv.symm.trans h
  | some v =>
    refine mapError_eq_error_iff.trans ⟨?_, ?_⟩
    · rintro ⟨x, hx, rfl⟩
      obtain ⟨rfl, hfinite⟩ := AttributeValue.labelText_eq_error_iff.1 hx
      exact .malformed hv hfinite
    · rintro (h | ⟨h, hx⟩)
      · cases hv.symm.trans h
      · cases hv.symm.trans h
        exact ⟨_, AttributeValue.labelText_eq_error_iff.2 ⟨rfl, hx⟩, rfl⟩

-- A part is reached if those before it fail for no cause at all, so the cause stays general.
mutual

theorem evaluate_eq_error_iff :
    ∀ {e : Expression} {cause : EvalError}, e.evaluate f = .error cause ↔ f.FirstWithheld e.attributes cause
  | literal _, _ => by simp [evaluate, attributes, Feature.not_firstWithheld_nil]
  | field name, _ => by
    rw [attributes, Feature.firstWithheld_singleton_iff]
    exact evaluate_field_eq_error_iff
  | concat parts, _ => by rw [evaluate, attributes, evaluateParts_eq_error_iff]

theorem evaluateParts_eq_error_iff :
    ∀ {ps : List Expression} {cause : EvalError},
      evaluateParts f ps = .error cause ↔ f.FirstWithheld (attributesOfParts ps) cause
  | [], _ => by simp [evaluateParts, attributesOfParts, Feature.not_firstWithheld_nil]
  | p :: ps, _ => by
    rw [evaluateParts, attributesOfParts, Feature.firstWithheld_append_iff, Feature.forall_usable_iff]
    simp only [← evaluate_eq_error_iff, ← evaluateParts_eq_error_iff]
    cases p.evaluate f with
    | error => simp [bind, Except.bind]
    | ok => cases evaluateParts f ps <;> simp [bind, Except.bind, pure, Except.pure]

end

/-- An expression has a value exactly if all of its attributes are usable. -/
theorem exists_evaluate_eq_ok_iff {e : Expression} :
    (∃ t, e.evaluate f = .ok t) ↔ ∀ n ∈ e.attributes, f.Usable n := by
  rw [Feature.forall_usable_iff]
  simp only [← evaluate_eq_error_iff]
  cases e.evaluate f <;> simp

end Expression

end MapLabel
