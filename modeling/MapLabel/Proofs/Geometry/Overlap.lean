import MapLabel.Geometry.Envelope
import MapLabel.Proofs.Number.Order
/-!
# Boxes that share a point

Two boxes intersect exactly if some point lies in both (`intersects_iff_share_point`), whatever their bounds
are. A box contains a point axis by axis, so the question comes down to ranges of numbers.
-/

namespace MapLabel

namespace Number

variable {low high low' high' : Float}

/-- Two ranges have a number in common exactly if neither is empty and each begins before the other ends. No
bound can then be NaN, as each is compared with another one. -/
theorem exists_common_iff :
    (∃ x, (low ≤ x ∧ x ≤ high) ∧ low' ≤ x ∧ x ≤ high') ↔
      (¬ high < low ∧ ¬ high' < low') ∧ low ≤ high' ∧ low' ≤ high := by
  constructor
  · rintro ⟨x, ⟨hlow, hhigh⟩, hlow', hhigh'⟩
    have hne := Number.le_trans hlow hhigh
    have hne' := Number.le_trans hlow' hhigh'
    exact ⟨⟨not_lt_of_le hne, not_lt_of_le hne'⟩, Number.le_trans hlow hhigh', Number.le_trans hlow' hhigh⟩
  · rintro ⟨⟨hne, hne'⟩, hbefore, hbefore'⟩
    obtain ⟨hlown, hhighn'⟩ := isNaN_of_le hbefore
    obtain ⟨hlown', hhighn⟩ := isNaN_of_le hbefore'
    rw [not_lt_iff hhighn hlown] at hne
    rw [not_lt_iff hhighn' hlown'] at hne'
    -- The greater of the two lower bounds is in both ranges.
    rcases Number.le_total hlown hlown' with hle | hle
    · exact ⟨low', ⟨hle, hbefore'⟩, le_refl_iff.2 hlown', hne'⟩
    · exact ⟨low, ⟨le_refl_iff.2 hlown, hne⟩, hle, hbefore⟩

end Number

namespace Envelope

theorem contains_iff {a : Envelope} {x y : Float} :
    a.contains x y = true ↔ (a.minX ≤ x ∧ x ≤ a.maxX) ∧ a.minY ≤ y ∧ y ≤ a.maxY := by
  simp [contains, and_assoc]

theorem isEmpty_eq_false_iff {a : Envelope} : a.isEmpty = false ↔ ¬ a.maxX < a.minX ∧ ¬ a.maxY < a.minY := by
  simp [isEmpty]

/-- Boxes are tested for a common point axis by axis. -/
theorem intersects_iff {a b : Envelope} :
    a.intersects b = true ↔
      ((¬ a.maxX < a.minX ∧ ¬ b.maxX < b.minX) ∧ a.minX ≤ b.maxX ∧ b.minX ≤ a.maxX) ∧
      (¬ a.maxY < a.minY ∧ ¬ b.maxY < b.minY) ∧ a.minY ≤ b.maxY ∧ b.minY ≤ a.maxY := by
  simp only [intersects, Bool.and_eq_true, Bool.not_eq_true', isEmpty_eq_false_iff, decide_eq_true_eq]
  constructor
  · rintro ⟨⟨⟨⟨⟨⟨hx, hy⟩, hx', hy'⟩, hleft⟩, hright⟩, hbelow⟩, habove⟩
    exact ⟨⟨⟨hx, hx'⟩, hleft, hright⟩, ⟨hy, hy'⟩, hbelow, habove⟩
  · rintro ⟨⟨⟨hx, hx'⟩, hleft, hright⟩, ⟨hy, hy'⟩, hbelow, habove⟩
    exact ⟨⟨⟨⟨⟨⟨hx, hy⟩, hx', hy'⟩, hleft⟩, hright⟩, hbelow⟩, habove⟩

/-- Two boxes intersect exactly if a point lies in both, be their bounds finite, infinite, NaN or in the wrong
order. -/
theorem intersects_iff_share_point (a b : Envelope) :
    a.intersects b = true ↔ ∃ x y, a.contains x y = true ∧ b.contains x y = true := by
  calc a.intersects b = true
    _ ↔ (∃ x, (a.minX ≤ x ∧ x ≤ a.maxX) ∧ b.minX ≤ x ∧ x ≤ b.maxX) ∧
        ∃ y, (a.minY ≤ y ∧ y ≤ a.maxY) ∧ b.minY ≤ y ∧ y ≤ b.maxY := by
      rw [intersects_iff, Number.exists_common_iff, Number.exists_common_iff]
    _ ↔ ∃ x y, a.contains x y = true ∧ b.contains x y = true := by
      simp only [contains_iff]
      constructor
      · rintro ⟨⟨x, hx, hx'⟩, y, hy, hy'⟩
        exact ⟨x, y, ⟨hx, hy⟩, hx', hy'⟩
      · rintro ⟨x, y, ⟨hx, hy⟩, hx', hy'⟩
        exact ⟨⟨x, hx, hx'⟩, y, hy, hy'⟩

/-- A corner is common enough, and NaN in one bound is not. -/
example : (Envelope.mk 0 0 10 10).intersects ⟨10, 10, 20, 20⟩ = true ∧
    (Envelope.mk 0 0 10 (0 / 0)).intersects ⟨10, 10, 20, 20⟩ = false := by decide

end Envelope

end MapLabel
