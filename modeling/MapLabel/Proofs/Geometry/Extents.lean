import MapLabel.Proofs.Geometry.Overlap
/-!
# The extents of placed boxes

Extents begin empty, and each placed box extends them. They are then the least box around all placed boxes,
in whatever order these came and however often each of them did (`joined_least_in_any_order`). What carries
it is that a box lies around the extents exactly if it lies around each placed box (`joined_subset_iff`).

Boxes are compared by their points. A box whose bounds are in order has its corners as points, so that its
bounds can be read off from its points.
-/

namespace MapLabel.Envelope

open Number (lesser greater)

variable {a b c : Envelope} {bs : List Envelope} {x y : Float}

/-! ## Boxes by their points -/

/-- On both axes the lower bound is at most the upper one. No bound is NaN then. -/
structure Ordered (a : Envelope) : Prop where
  x : a.minX ≤ a.maxX
  y : a.minY ≤ a.maxY

instance (a : Envelope) : Decidable a.Ordered :=
  decidable_of_iff (a.minX ≤ a.maxX ∧ a.minY ≤ a.maxY) ⟨fun h => ⟨h.1, h.2⟩, fun h => ⟨h.x, h.y⟩⟩

/-- All points of the first box lie in the second one. -/
instance : HasSubset Envelope where
  Subset a b := ∀ x y, a.contains x y = true → b.contains x y = true

theorem Ordered.isEmpty_eq_false (ha : a.Ordered) : a.isEmpty = false :=
  isEmpty_eq_false_iff.2 ⟨Number.not_lt_of_le ha.x, Number.not_lt_of_le ha.y⟩

theorem ordered_of_contains (h : a.contains x y = true) : a.Ordered := by
  obtain ⟨⟨hlow, hhigh⟩, hlow', hhigh'⟩ := contains_iff.1 h
  exact ⟨Number.le_trans hlow hhigh, Number.le_trans hlow' hhigh'⟩

theorem Ordered.contains_lower (ha : a.Ordered) : a.contains a.minX a.minY = true :=
  contains_iff.2 ⟨⟨Number.le_refl_iff.2 (Number.isNaN_of_le ha.x).1, ha.x⟩,
    Number.le_refl_iff.2 (Number.isNaN_of_le ha.y).1, ha.y⟩

theorem Ordered.contains_upper (ha : a.Ordered) : a.contains a.maxX a.maxY = true :=
  contains_iff.2 ⟨⟨ha.x, Number.le_refl_iff.2 (Number.isNaN_of_le ha.x).2⟩,
    ha.y, Number.le_refl_iff.2 (Number.isNaN_of_le ha.y).2⟩

theorem not_contains_of_isEmpty (ha : a.isEmpty = true) : ¬ a.contains x y = true := by
  intro h
  exact Bool.false_ne_true ((ordered_of_contains h).isEmpty_eq_false.symm.trans ha)

protected theorem subset_refl (a : Envelope) : a ⊆ a := fun _ _ h => h

theorem subset_of_isEmpty (ha : a.isEmpty = true) : a ⊆ b := fun _ _ h => absurd h (not_contains_of_isEmpty ha)

theorem Ordered.not_subset_of_isEmpty (ha : a.Ordered) (hb : b.isEmpty = true) : ¬ a ⊆ b :=
  fun h => not_contains_of_isEmpty hb (h _ _ ha.contains_lower)

/-- A box in order lies in another one exactly if the bounds of the other one are further out. -/
theorem Ordered.subset_iff (ha : a.Ordered) :
    a ⊆ b ↔ (b.minX ≤ a.minX ∧ a.maxX ≤ b.maxX) ∧ b.minY ≤ a.minY ∧ a.maxY ≤ b.maxY := by
  constructor
  · intro h
    obtain ⟨⟨hleft, -⟩, hbelow, -⟩ := contains_iff.1 (h _ _ ha.contains_lower)
    obtain ⟨⟨-, hright⟩, -, habove⟩ := contains_iff.1 (h _ _ ha.contains_upper)
    exact ⟨⟨hleft, hright⟩, hbelow, habove⟩
  · rintro ⟨⟨hleft, hright⟩, hbelow, habove⟩ x y h
    obtain ⟨⟨hlow, hhigh⟩, hlow', hhigh'⟩ := contains_iff.1 h
    exact contains_iff.2 ⟨⟨Number.le_trans hleft hlow, Number.le_trans hhigh hright⟩,
      Number.le_trans hbelow hlow', Number.le_trans hhigh' habove⟩

/-! ## Extents and one more box -/

/-- What extents can be: as they began, or in order. -/
def Settled (a : Envelope) : Prop := a = ∅ ∨ a.Ordered

theorem isEmpty_empty : (∅ : Envelope).isEmpty = true := by decide

theorem Settled.isEmpty_or_ordered (ha : a.Settled) : a.isEmpty = true ∨ a.Ordered := by
  rcases ha with rfl | ha
  · exact .inl isEmpty_empty
  · exact .inr ha

theorem Settled.isNaN_eq_false (ha : a.Settled) :
    (a.minX.isNaN = false ∧ a.maxX.isNaN = false) ∧ a.minY.isNaN = false ∧ a.maxY.isNaN = false := by
  rcases ha with rfl | ha
  · decide
  · exact ⟨Number.isNaN_of_le ha.x, Number.isNaN_of_le ha.y⟩

theorem isEmpty_iff_subset_empty (ha : a.isEmpty = true ∨ a.Ordered) : a.isEmpty = true ↔ a ⊆ ∅ := by
  refine ⟨subset_of_isEmpty, fun h => ?_⟩
  rcases ha with ha | ha
  · exact ha
  · exact absurd h (ha.not_subset_of_isEmpty isEmpty_empty)

/-- Settled boxes with the same points have equal bounds. -/
theorem Settled.beq_of_subset (ha : a.Settled) (hb : b.Settled) (hab : a ⊆ b) (hba : b ⊆ a) : (a == b) = true := by
  rcases ha with rfl | ha <;> rcases hb with rfl | hb
  · decide
  · exact absurd hba (hb.not_subset_of_isEmpty isEmpty_empty)
  · exact absurd hab (ha.not_subset_of_isEmpty isEmpty_empty)
  · obtain ⟨⟨hleft, hright⟩, hbelow, habove⟩ := ha.subset_iff.1 hab
    obtain ⟨⟨hleft', hright'⟩, hbelow', habove'⟩ := hb.subset_iff.1 hba
    have hbounds : (a == b) = (a.minX == b.minX && a.minY == b.minY && a.maxX == b.maxX && a.maxY == b.maxY) := rfl
    simp only [hbounds, Bool.and_eq_true, Number.beq_iff_le_and_le]
    exact ⟨⟨⟨⟨hleft', hleft⟩, hbelow', hbelow⟩, hright, hright'⟩, habove, habove'⟩

theorem join_of_isEmpty (hb : b.isEmpty = true) : a.join b = a := by simp [join, hb]

theorem join_of_ordered (hb : b.Ordered) :
    a.join b = ⟨lesser a.minX b.minX, lesser a.minY b.minY, greater a.maxX b.maxX, greater a.maxY b.maxY⟩ := by
  simp [join, hb.isEmpty_eq_false]

theorem Settled.join_ordered (ha : a.Settled) (hb : b.Ordered) : (a.join b).Ordered := by
  obtain ⟨⟨hminX, hmaxX⟩, hminY, hmaxY⟩ := ha.isNaN_eq_false
  obtain ⟨hminX', hmaxX'⟩ := Number.isNaN_of_le hb.x
  obtain ⟨hminY', hmaxY'⟩ := Number.isNaN_of_le hb.y
  rw [join_of_ordered hb]
  exact ⟨Number.le_trans (Number.lesser_le_right hminX hminX')
      (Number.le_trans hb.x (Number.right_le_greater hmaxX hmaxX')),
    Number.le_trans (Number.lesser_le_right hminY hminY')
      (Number.le_trans hb.y (Number.right_le_greater hmaxY hmaxY'))⟩

theorem Settled.join (ha : a.Settled) (hb : b.isEmpty = true ∨ b.Ordered) : (a.join b).Settled := by
  rcases hb with hb | hb
  · rw [join_of_isEmpty hb]
    exact ha
  · exact .inr (ha.join_ordered hb)

/-- The join of two boxes lies where both of them do. -/
theorem Settled.join_subset_iff (ha : a.Settled) (hb : b.isEmpty = true ∨ b.Ordered) :
    a.join b ⊆ c ↔ a ⊆ c ∧ b ⊆ c := by
  rcases hb with hb | hb
  · rw [join_of_isEmpty hb]
    exact (and_iff_left (subset_of_isEmpty hb)).symm
  · obtain ⟨⟨hminX, hmaxX⟩, hminY, hmaxY⟩ := ha.isNaN_eq_false
    obtain ⟨hminX', hmaxX'⟩ := Number.isNaN_of_le hb.x
    obtain ⟨hminY', hmaxY'⟩ := Number.isNaN_of_le hb.y
    rw [(ha.join_ordered hb).subset_iff, hb.subset_iff, join_of_ordered hb]
    simp only [Number.le_lesser_iff hminX hminX', Number.le_lesser_iff hminY hminY',
      Number.greater_le_iff hmaxX hmaxX', Number.greater_le_iff hmaxY hmaxY']
    rcases ha with rfl | ha
    · -- No box has bounds beyond the infinite ones of the empty box.
      constructor
      · rintro ⟨⟨⟨-, hleft⟩, -, hright⟩, ⟨-, hbelow⟩, -, habove⟩
        exact ⟨subset_of_isEmpty isEmpty_empty, ⟨hleft, hright⟩, hbelow, habove⟩
      · rintro ⟨-, ⟨hleft, hright⟩, hbelow, habove⟩
        exact ⟨⟨⟨Number.le_infinity (Number.isNaN_of_le hleft).1, hleft⟩,
            Number.neg_infinity_le (Number.isNaN_of_le hright).2, hright⟩,
          ⟨Number.le_infinity (Number.isNaN_of_le hbelow).1, hbelow⟩,
            Number.neg_infinity_le (Number.isNaN_of_le habove).2, habove⟩
    · rw [ha.subset_iff]
      constructor
      · rintro ⟨⟨⟨hleft, hleft'⟩, hright, hright'⟩, ⟨hbelow, hbelow'⟩, habove, habove'⟩
        exact ⟨⟨⟨hleft, hright⟩, hbelow, habove⟩, ⟨hleft', hright'⟩, hbelow', habove'⟩
      · rintro ⟨⟨⟨hleft, hright⟩, hbelow, habove⟩, ⟨hleft', hright'⟩, hbelow', habove'⟩
        exact ⟨⟨⟨hleft, hleft'⟩, hright, hright'⟩, ⟨hbelow, hbelow'⟩, habove, habove'⟩

/-! ## Extents of many boxes -/

/-- The extents after boxes were placed one after the other. -/
def joined (bs : List Envelope) : Envelope := bs.foldl join ∅

theorem Settled.foldl_join (ha : a.Settled) (h : ∀ b ∈ bs, b.isEmpty = true ∨ b.Ordered) :
    (bs.foldl Envelope.join a).Settled ∧ ∀ c, bs.foldl Envelope.join a ⊆ c ↔ a ⊆ c ∧ ∀ b ∈ bs, b ⊆ c := by
  induction bs generalizing a with
  | nil => simp [ha]
  | cons b bs ih =>
    obtain ⟨hb, hbs⟩ := List.forall_mem_cons.1 h
    obtain ⟨hsettled, hleast⟩ := ih (ha.join hb) hbs
    refine ⟨hsettled, fun c => ?_⟩
    rw [List.foldl_cons, hleast, ha.join_subset_iff hb, List.forall_mem_cons, and_assoc]

theorem settled_joined (h : ∀ b ∈ bs, b.isEmpty = true ∨ b.Ordered) : (joined bs).Settled :=
  (Settled.foldl_join (.inl rfl) h).1

/-- A box lies around the extents exactly if it lies around each box that was placed. -/
theorem joined_subset_iff (h : ∀ b ∈ bs, b.isEmpty = true ∨ b.Ordered) : joined bs ⊆ c ↔ ∀ b ∈ bs, b ⊆ c :=
  ((Settled.foldl_join (.inl rfl) h).2 c).trans (and_iff_right (subset_of_isEmpty isEmpty_empty))

/-- Boxes that are empty or in order leave the least extents around them: all their points are in, and what is in
is in every box that has all their points. The extents are empty exactly if all the boxes are. Any row of the
same boxes leaves equal extents, however it orders or repeats them. -/
theorem joined_least_in_any_order (h : ∀ b ∈ bs, b.isEmpty = true ∨ b.Ordered) :
    (∀ b ∈ bs, b ⊆ joined bs) ∧
    (∀ a, (∀ b ∈ bs, b ⊆ a) → joined bs ⊆ a) ∧
    ((joined bs).isEmpty = true ↔ ∀ b ∈ bs, b.isEmpty = true) ∧
    ∀ bs', (∀ b, b ∈ bs' ↔ b ∈ bs) → (joined bs' == joined bs) = true := by
  refine ⟨(joined_subset_iff h).1 (Envelope.subset_refl _), fun a => (joined_subset_iff h).2, ?_, ?_⟩
  · calc (joined bs).isEmpty = true
      _ ↔ joined bs ⊆ ∅ := isEmpty_iff_subset_empty (settled_joined h).isEmpty_or_ordered
      _ ↔ ∀ b ∈ bs, b ⊆ ∅ := joined_subset_iff h
      _ ↔ ∀ b ∈ bs, b.isEmpty = true := forall₂_congr fun b hb => (isEmpty_iff_subset_empty (h b hb)).symm
  · intro bs' hsame
    have h' : ∀ b ∈ bs', b.isEmpty = true ∨ b.Ordered := fun b hb => h b ((hsame b).1 hb)
    -- What lies around the boxes of one row lies around those of the other.
    have haround : ∀ c, joined bs' ⊆ c ↔ joined bs ⊆ c := fun c => by
      rw [joined_subset_iff h', joined_subset_iff h]
      exact forall_congr' fun b => imp_congr_left (hsame b)
    exact (settled_joined h').beq_of_subset (settled_joined h)
      ((haround _).2 (Envelope.subset_refl _)) ((haround _).1 (Envelope.subset_refl _))

theorem joined_least_in_any_order_halfStrip :
    let bs : List Envelope := [⟨0, 0, 10, 5⟩, ∅, ⟨-5, 2, Number.infinity, 8⟩]
    (∀ b ∈ bs, b.isEmpty = true ∨ b.Ordered) ∧
    joined bs = ⟨-5, 0, Number.infinity, 8⟩ ∧
    (∀ b ∈ bs, b ⊆ joined bs) ∧
    (∀ a, (∀ b ∈ bs, b ⊆ a) → joined bs ⊆ a) ∧
    (joined bs).isEmpty = false ∧
    (joined [⟨-5, 2, Number.infinity, 8⟩, ⟨0, 0, 10, 5⟩, ⟨-5, 2, Number.infinity, 8⟩, ∅] == joined bs) = true := by
  intro bs
  have h : ∀ b ∈ bs, b.isEmpty = true ∨ b.Ordered := by decide
  have hsame : ∀ b, b ∈ [⟨-5, 2, Number.infinity, 8⟩, ⟨0, 0, 10, 5⟩, ⟨-5, 2, Number.infinity, 8⟩, ∅] ↔ b ∈ bs := by
    simp only [bs, List.mem_cons, List.not_mem_nil, or_false]
    tauto
  obtain ⟨hin, hleast, hempty, hany⟩ := joined_least_in_any_order h
  have hne : ¬ ∀ b ∈ bs, b.isEmpty = true := by decide
  exact ⟨h, by decide, hin, hleast, Bool.eq_false_iff.2 (mt hempty.1 hne), hany _ hsame⟩

end MapLabel.Envelope
