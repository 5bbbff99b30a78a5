import MapLabel.Number.Compare
import Mathlib.Data.Prod.Lex
import Mathlib.Order.Compare
/-!
# Floats in their order

Floats other than NaN stand in a linear order, from minus infinity to infinity and with both zeros in one
place, and no comparison with NaN holds. Each float has its place as a triple, compared from left to right,
and floats compare as their places do (`le_iff_place`, `lt_iff_place`). What is known of linear orders then
holds of all floats that have a place: the lesser of two is their greatest lower bound (`le_lesser_iff`), the
greater their least upper bound (`greater_le_iff`).
-/

namespace MapLabel.Number

open Float.Model

/-! ## Places -/

/-- A place in the order of floats. -/
abbrev Place : Type := Int ×ₗ Int ×ₗ Int

/-- The class of a float by its size, from -2 for minus infinity to 2 for infinity, and within the class its
exponent and its mantissa. -/
def Place.mk (size exponent mantissa : Int) : Place := toLex (size, toLex (exponent, mantissa))

/-- Among negative floats, the one with the greater exponent or mantissa comes first. -/
def placeOf? : UnpackedFloat → Option Place
  | .notANumber => none
  | .infinity .negative => some (.mk (-2) 0 0)
  | .finite .negative mantissa exponent _ => some (.mk (-1) (-exponent) (-mantissa))
  | .zero _ => some (.mk 0 0 0)
  | .finite .positive mantissa exponent _ => some (.mk 1 exponent mantissa)
  | .infinity .positive => some (.mk 2 0 0)

/-- The place of a float, if it is a number. -/
def place? (x : Float) : Option Place := placeOf? x.toModel.unpack

theorem compare_mk (s s' e e' m m' : Int) :
    compare (Place.mk s e m) (.mk s' e' m') = (compare s s').then ((compare e e').then (compare m m')) := rfl

theorem compare_natCast (m n : Nat) : compare (m : Int) n = compare m n := by
  rw [← cmp_eq_compare, ← cmp_eq_compare]
  exact StrictMono.cmp_map_eq (fun _ _ h => Int.ofNat_lt.2 h) m n

theorem compare_neg (a b : Int) : compare (-a) (-b) = (compare a b).swap := by
  rw [Int.compare_swap, ← cmp_eq_compare, ← cmp_eq_compare]
  exact StrictAnti.cmp_map_eq (f := fun a : Int => -a) (fun _ _ h => Int.neg_lt_neg h) a b

/-- Floats compare as their places do. -/
theorem compare_eq_places (u v : UnpackedFloat) :
    u.compare v = (placeOf? u).bind fun p => (placeOf? v).map (compare p) := by
  cases u with
  | notANumber => rfl
  | zero =>
    cases v with
    | infinity t => cases t <;> rfl
    | finite t => cases t <;> rfl
    | _ => rfl
  | infinity s =>
    cases v with
    | infinity t | finite t => cases s <;> cases t <;> rfl
    | _ => cases s <;> rfl
  | finite s m e =>
    cases v with
    | infinity t => cases s <;> cases t <;> rfl
    | finite t m' e' =>
      cases s <;> cases t
      case negative.negative =>
        change some ((compare e e').then (compare m m')).swap =
          some (compare (Place.mk (-1) (-e) (-(m : Int))) (.mk (-1) (-e') (-(m' : Int))))
        rw [Ordering.swap_then, compare_mk, compare_neg e, compare_neg m, compare_natCast]
        rfl
      case positive.positive =>
        change some ((compare e e').then (compare m m')) = some (compare (Place.mk 1 e m) (.mk 1 e' m'))
        rw [compare_mk, compare_natCast]
        rfl
      all_goals rfl
    | _ => cases s <;> rfl

variable {x y z : Float}

theorem le_iff_place : x ≤ y ↔ ∃ p ∈ place? x, ∃ q ∈ place? y, p ≤ q := by
  have hle : x ≤ y ↔ x.toModel.unpack.le y.toModel.unpack = true := decide_eq_true_iff
  rw [hle, UnpackedFloat.le, compare_eq_places]
  simp only [place?]
  cases placeOf? x.toModel.unpack <;> cases placeOf? y.toModel.unpack <;>
    simp [← Ordering.ne_gt_iff_isLE, compare_le_iff_le]

theorem lt_iff_place : x < y ↔ ∃ p ∈ place? x, ∃ q ∈ place? y, p < q := by
  have hlt : x < y ↔ x.toModel.unpack.lt y.toModel.unpack = true := decide_eq_true_iff
  rw [hlt, UnpackedFloat.lt, compare_eq_places]
  simp only [place?]
  cases placeOf? x.toModel.unpack <;> cases placeOf? y.toModel.unpack <;> simp [compare_lt_iff_lt]

/-- All floats but NaN have a place. -/
theorem exists_place_iff : (∃ p, place? x = some p) ↔ x.isNaN = false := by
  have hnan : x.isNaN = x.toModel.unpack.isNaN := rfl
  rw [place?, hnan]
  cases x.toModel.unpack with
  | notANumber => exact ⟨nofun, nofun⟩
  | zero s => exact ⟨fun _ => rfl, fun _ => ⟨_, rfl⟩⟩
  | infinity s | finite s => cases s <;> exact ⟨fun _ => rfl, fun _ => ⟨_, rfl⟩⟩

/-! ## The laws of the order -/

theorem le_refl_iff : x ≤ x ↔ x.isNaN = false := by
  rw [le_iff_place, ← exists_place_iff]
  constructor
  · rintro ⟨p, hp, -⟩
    exact ⟨p, hp⟩
  · rintro ⟨p, hp⟩
    exact ⟨p, hp, p, hp, le_rfl⟩

protected theorem le_trans (hxy : x ≤ y) (hyz : y ≤ z) : x ≤ z := by
  obtain ⟨p, hp, q, hq, hpq⟩ := le_iff_place.1 hxy
  obtain ⟨q', hq', r, hr, hqr⟩ := le_iff_place.1 hyz
  obtain rfl : q = q' := Option.mem_unique hq hq'
  exact le_iff_place.2 ⟨p, hp, r, hr, hpq.trans hqr⟩

/-- Nothing that is compared is NaN. -/
theorem isNaN_of_le (h : x ≤ y) : x.isNaN = false ∧ y.isNaN = false := by
  obtain ⟨p, hp, q, hq, -⟩ := le_iff_place.1 h
  exact ⟨exists_place_iff.1 ⟨p, hp⟩, exists_place_iff.1 ⟨q, hq⟩⟩

theorem isNaN_of_isFinite (h : x.isFinite) : x.isNaN = false := by
  have hfinite : x.toModel.unpack.isFinite = true := h
  have hnan : x.isNaN = x.toModel.unpack.isNaN := rfl
  rw [hnan]
  cases hx : x.toModel.unpack with
  | notANumber =>
    rw [hx] at hfinite
    cases hfinite
  | _ => rfl

theorem not_lt_iff (hx : x.isNaN = false) (hy : y.isNaN = false) : ¬ x < y ↔ y ≤ x := by
  obtain ⟨p, hp⟩ := exists_place_iff.2 hx
  obtain ⟨q, hq⟩ := exists_place_iff.2 hy
  simp [lt_iff_place, le_iff_place, hp, hq]

theorem not_le_iff (hx : x.isNaN = false) (hy : y.isNaN = false) : ¬ x ≤ y ↔ y < x := by
  rw [← not_lt_iff hy hx, not_not]

protected theorem le_total (hx : x.isNaN = false) (hy : y.isNaN = false) : x ≤ y ∨ y ≤ x := by
  obtain ⟨p, hp⟩ := exists_place_iff.2 hx
  obtain ⟨q, hq⟩ := exists_place_iff.2 hy
  simpa [le_iff_place, hp, hq] using LinearOrder.le_total p q

theorem not_lt_of_le (h : x ≤ y) : ¬ y < x := by
  obtain ⟨hx, hy⟩ := isNaN_of_le h
  exact (not_lt_iff hy hx).2 h

protected theorem le_of_lt (h : x < y) : x ≤ y := by
  obtain ⟨p, hp, q, hq, hpq⟩ := lt_iff_place.1 h
  exact le_iff_place.2 ⟨p, hp, q, hq, hpq.le⟩

/-- Two floats are equal exactly if neither comes first. The signs of zeros do not count. -/
theorem beq_iff_le_and_le : (x == y) = true ↔ x ≤ y ∧ y ≤ x := by
  have hbeq : (x == y) = (x.toModel.unpack.compare y.toModel.unpack == some .eq) := rfl
  rw [hbeq, compare_eq_places, le_iff_place, le_iff_place]
  simp only [place?]
  cases placeOf? x.toModel.unpack with
  | none => simp
  | some p =>
    cases placeOf? y.toModel.unpack with
    | none => simp
    | some q => simpa [compare_eq_iff_eq] using le_antisymm_iff

/-! ## The ends of the order -/

theorem between_of_placeOf? {u : UnpackedFloat} {p : Place} (h : placeOf? u = some p) :
    .mk (-2) 0 0 ≤ p ∧ p ≤ .mk 2 0 0 := by
  cases u with
  | notANumber => cases h
  | zero s =>
    obtain rfl := Option.some.inj h
    decide
  | infinity s =>
    cases s
    all_goals
      obtain rfl := Option.some.inj h
      decide
  | finite s mantissa exponent =>
    cases s
    all_goals
      obtain rfl := Option.some.inj h
      exact ⟨Prod.Lex.left _ _ (by decide), Prod.Lex.left _ _ (by decide)⟩

theorem le_infinity (hx : x.isNaN = false) : x ≤ infinity := by
  obtain ⟨p, hp⟩ := exists_place_iff.2 hx
  exact le_iff_place.2 ⟨p, hp, .mk 2 0 0, rfl, (between_of_placeOf? hp).2⟩

theorem neg_infinity_le (hx : x.isNaN = false) : -infinity ≤ x := by
  obtain ⟨p, hp⟩ := exists_place_iff.2 hx
  exact le_iff_place.2 ⟨.mk (-2) 0 0, rfl, p, hp, (between_of_placeOf? hp).1⟩

/-! ## The lesser and the greater of two numbers -/

theorem le_lesser_iff (hx : x.isNaN = false) (hy : y.isNaN = false) : z ≤ lesser x y ↔ z ≤ x ∧ z ≤ y := by
  simp only [lesser, hx, Bool.false_eq_true, if_false]
  split
  case isTrue hlt =>
    exact ⟨fun h => ⟨Number.le_trans h (Number.le_of_lt hlt), h⟩, And.right⟩
  case isFalse hlt =>
    exact ⟨fun h => ⟨h, Number.le_trans h ((not_lt_iff hy hx).1 hlt)⟩, And.left⟩

theorem greater_le_iff (hx : x.isNaN = false) (hy : y.isNaN = false) : greater x y ≤ z ↔ x ≤ z ∧ y ≤ z := by
  simp only [greater, hx, Bool.false_eq_true, if_false]
  split
  case isTrue hlt =>
    exact ⟨fun h => ⟨Number.le_trans (Number.le_of_lt hlt) h, h⟩, And.right⟩
  case isFalse hlt =>
    exact ⟨fun h => ⟨h, Number.le_trans ((not_lt_iff hx hy).1 hlt) h⟩, And.left⟩

theorem lesser_le_right (hx : x.isNaN = false) (hy : y.isNaN = false) : lesser x y ≤ y := by
  simp only [lesser, hx, Bool.false_eq_true, if_false]
  split
  case isTrue => exact le_refl_iff.2 hy
  case isFalse hlt => exact (not_lt_iff hy hx).1 hlt

theorem right_le_greater (hx : x.isNaN = false) (hy : y.isNaN = false) : y ≤ greater x y := by
  simp only [greater, hx, Bool.false_eq_true, if_false]
  split
  case isTrue => exact le_refl_iff.2 hy
  case isFalse hlt => exact (not_lt_iff hx hy).1 hlt

end MapLabel.Number
