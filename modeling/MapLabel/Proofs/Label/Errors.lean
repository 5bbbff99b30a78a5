import MapLabel.Proofs.Expression.Failure
import MapLabel.Proofs.Label.Dependency
/-!
# When a label has errors

Whether a label has errors can be told from its feature and the reported attributes alone, before
anything is rendered (`errors_by_withheld_attributes`): each text leaf in whose expression an attribute is
withheld has one error, for the leftmost such attribute, and there are no others. Evaluation stops at the
first failure within a leaf but never from one leaf to the next.
-/

namespace MapLabel.Content

namespace Leaf

variable {f : Feature} {l : Leaf}

/-- The leaf is a text that mentions an attribute which is not usable. -/
def Spoiled (f : Feature) (l : Leaf) : Prop := ∃ e, l.tip = .text e ∧ ∃ n ∈ e.attributes, ¬ f.Usable n

instance (f : Feature) : DecidablePred (Spoiled f)
  | ⟨_, .text e⟩ => decidable_of_iff (∃ n ∈ e.attributes, ¬ f.Usable n) (by simp [Spoiled])
  | ⟨_, .featureId⟩ => .isFalse (by simp [Spoiled])

theorem error?_eq_some_iff {i : Nat} {r : RunError} :
    l.error? f i = some r ↔ r.runIndex = i ∧
      ∃ e, l.tip = .text e ∧ r.expression = e.print ∧ f.FirstWithheld e.attributes r.cause := by
  obtain ⟨patches, e | _⟩ := l
  · simp only [← Expression.evaluate_eq_error_iff]
    cases h : e.evaluate f with
    | ok => simp [error?, h]
    | error cause =>
      obtain ⟨index, printed, cause'⟩ := r
      simp [error?, h, eq_comm]
  · simp [error?]

theorem isSome_error?_iff {i : Nat} : (l.error? f i).isSome ↔ l.Spoiled f := by
  rw [Option.isSome_iff_exists]
  constructor
  · rintro ⟨r, hr⟩
    obtain ⟨-, e, he, -, hcause⟩ := error?_eq_some_iff.1 hr
    exact ⟨e, he, Feature.exists_firstWithheld_iff.1 ⟨r.cause, hcause⟩⟩
  · rintro ⟨e, he, hn⟩
    obtain ⟨cause, hcause⟩ := Feature.exists_firstWithheld_iff.2 hn
    exact ⟨⟨i, e.print, cause⟩, error?_eq_some_iff.2 ⟨rfl, e, he, rfl, hcause⟩⟩

end Leaf

/-! ## The errors of a row of leaves -/

theorem length_errorsFrom (f : Feature) (start : Nat) (ls : List Leaf) :
    (errorsFrom f start ls).length = ls.countP (Leaf.Spoiled f ·) := by
  induction ls generalizing start with
  | nil => rfl
  | cons l ls ih =>
    have hhead : (l.error? f start).toList.length = if l.Spoiled f then 1 else 0 := by
      simp only [← Leaf.isSome_error?_iff (i := start)]
      cases l.error? f start <;> rfl
    rw [errorsFrom_cons, List.length_append, ih, hhead, List.countP_cons, Nat.add_comm]
    simp only [decide_eq_true_eq]

theorem mem_errorsFrom_iff {f : Feature} {start : Nat} {ls : List Leaf} {r : RunError} :
    r ∈ errorsFrom f start ls ↔ ∃ (i : Nat) (l : Leaf), ls[i]? = some l ∧ l.error? f (start + i) = some r := by
  rw [errorsFrom, List.mem_filterMap]
  constructor
  · rintro ⟨⟨l, j⟩, hl, hr⟩
    obtain ⟨hj, hl⟩ := List.mk_mem_zipIdx_iff_le_and_getElem?_sub.1 hl
    exact ⟨j - start, l, hl, by rwa [Nat.add_sub_cancel' hj]⟩
  · rintro ⟨i, l, hl, hr⟩
    refine ⟨(l, start + i), ?_, hr⟩
    rw [List.mk_mem_zipIdx_iff_le_and_getElem?_sub]
    simpa using hl

/-- The errors of a label that was empty before. -/
theorem errors_render_empty (c : Content) (base : Style) (f : Feature) :
    (c.render base f ∅).errors = errorsFrom f 0 c.leaves := by
  rw [render_eq_addLeaves]
  rfl

/-- No leaf is spoiled exactly if all reported attributes are usable. -/
theorem forall_not_spoiled_iff {c : Content} {f : Feature} :
    (∀ l ∈ c.leaves, ¬ l.Spoiled f) ↔ ∀ n ∈ (c.collect ∅).attributeNames, f.Usable n := by
  constructor
  · intro h n hn
    obtain ⟨e, he, hne⟩ := ExpressionSet.mem_attributeNames.1 hn
    obtain ⟨l, hl, ht⟩ : c.Reads e := (mem_collect.1 he).resolve_left List.not_mem_nil
    exact Decidable.byContradiction fun hu => h l hl ⟨e, ht, n, hne, hu⟩
  · rintro h l hl ⟨e, ht, n, hne, hu⟩
    exact hu (h n (ExpressionSet.mem_attributeNames.2 ⟨e, mem_collect.2 (.inr ⟨l, hl, ht⟩), hne⟩))

/-- A label has no errors exactly if each reported attribute is usable. It has as many as there are text
leaves that mention an attribute which is not, and each is for the leftmost such attribute of the leaf
whose number it carries. -/
theorem errors_by_withheld_attributes (c : Content) (base : Style) (f : Feature) :
    ((c.render base f ∅).hasErrors = false ↔ ∀ n ∈ (c.collect ∅).attributeNames, f.Usable n) ∧
    (c.render base f ∅).errors.length = c.leaves.countP (Leaf.Spoiled f ·) ∧
    ∀ r : RunError, r ∈ (c.render base f ∅).errors ↔
      ∃ l e, c.leaves[r.runIndex]? = some l ∧ l.tip = .text e ∧ r.expression = e.print ∧
        f.FirstWithheld e.attributes r.cause := by
  rw [Label.hasErrors, errors_render_empty]
  refine ⟨?_, length_errorsFrom f 0 c.leaves, fun r => ?_⟩
  · rw [← forall_not_spoiled_iff, Bool.not_eq_false', List.isEmpty_iff_length_eq_zero, length_errorsFrom,
      List.countP_eq_zero]
    simp
  · rw [mem_errorsFrom_iff]
    constructor
    · rintro ⟨i, l, hl, hr⟩
      obtain ⟨hi, e, he, hprint, hcause⟩ := Leaf.error?_eq_some_iff.1 hr
      exact ⟨l, e, by rwa [hi, Nat.zero_add], he, hprint, hcause⟩
    · rintro ⟨l, e, hl, he, hprint, hcause⟩
      exact ⟨r.runIndex, l, hl, Leaf.error?_eq_some_iff.2 ⟨(Nat.zero_add _).symm, e, he, hprint, hcause⟩⟩

end MapLabel.Content
