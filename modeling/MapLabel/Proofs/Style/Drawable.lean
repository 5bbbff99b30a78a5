import Mathlib.Data.List.DropRight
import MapLabel.Proofs.Number.Order
import MapLabel.Proofs.Placement.Validity
/-!
# What the check of a style tells the renderer

A style passes its check exactly if every value in it can be drawn with (`validate_eq_ok_iff_drawable`).
The checks refuse what is out of range. That what they let through is in range rests on the numbers being
finite, as something that is not a number is neither below nor above zero.
-/

namespace MapLabel

/-! ## Blank names -/

namespace Text

/-- Nothing is left of a text exactly if all of it is blank. -/
theorem trim_eq_nil_iff {cs : List Char} : trim cs = [] ↔ ∀ c ∈ cs, isBlank c :=
  calc trim cs = []
    _ ↔ ∀ c ∈ trimLeft cs, isBlank c := List.rdropWhile_eq_nil_iff
    _ ↔ trimLeft (trimLeft cs) = [] := List.dropWhile_eq_nil_iff.symm
    _ ↔ trimLeft cs = [] := by rw [trimLeft, trimLeft, List.dropWhile_idempotent]
    _ ↔ ∀ c ∈ cs, isBlank c := List.dropWhile_eq_nil_iff

end Text

/-! ## The checks -/

namespace Fault

theorem ofNumber_eq_none_iff {x : Float} : ofNumber x = none ↔ x.isFinite := by simp [ofNumber]

theorem ofSize_eq_none_iff {x : Float} : ofSize x = none ↔ x.isFinite ∧ 0 < x := by
  simp only [ofSize, Option.or_eq_none_iff, ofNumber_eq_none_iff, ite_eq_right_iff, reduceCtorEq, imp_false]
  exact and_congr_right fun hx => Number.not_le_iff (Number.isNaN_of_isFinite hx) (by decide)

theorem ofOpacity_eq_none_iff {x : Float} : ofOpacity x = none ↔ x.isFinite ∧ 0 ≤ x ∧ x ≤ 1 := by
  simp [ofOpacity, ofNumber_eq_none_iff]

theorem ofRadius_eq_none_iff {x : Float} : ofRadius x = none ↔ x.isFinite ∧ 0 ≤ x := by
  simp only [ofRadius, Option.or_eq_none_iff, ofNumber_eq_none_iff, ite_eq_right_iff, reduceCtorEq, imp_false]
  exact and_congr_right fun hx => Number.not_lt_iff (Number.isNaN_of_isFinite hx) (by decide)

theorem ofName_eq_none_iff {s : String} : ofName s = none ↔ ∃ c ∈ s.toList, Text.isBlank c = false := by
  simp [ofName, Text.trim_eq_nil_iff]

end Fault

namespace Style

/-- Every value of the style can be drawn with. -/
structure Drawable (s : Style) : Prop where
  textSize : s.textSize.isFinite ∧ 0 < s.textSize
  characterSpacing : s.characterSpacing.isFinite
  lineSpacing : s.lineSpacing.isFinite
  opacity : s.opacity.isFinite ∧ 0 ≤ s.opacity ∧ s.opacity ≤ 1
  haloRadius : s.haloRadius.isFinite ∧ 0 ≤ s.haloRadius
  fontset : ∀ name ∈ s.fontset, ∃ c ∈ name.toList, Text.isBlank c = false

theorem validate_eq_ok_iff_drawable {s : Style} : s.validate = .ok () ↔ s.Drawable := by
  simp only [validate_eq_ok_iff, valid_iff, Fault.ofSize_eq_none_iff, Fault.ofNumber_eq_none_iff,
    Fault.ofOpacity_eq_none_iff, Fault.ofRadius_eq_none_iff, Option.bind_eq_none_iff, Fault.ofName_eq_none_iff]
  constructor
  · rintro ⟨hsize, hchar, hline, hopacity, hradius, hname⟩
    exact ⟨hsize, hchar, hline, hopacity, hradius, hname⟩
  · rintro ⟨hsize, hchar, hline, hopacity, hradius, hname⟩
    exact ⟨hsize, hchar, hline, hopacity, hradius, hname⟩

end Style

end MapLabel
