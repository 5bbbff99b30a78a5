import MapLabel.Proofs.Expression.Dependency
import MapLabel.Proofs.Expression.Failure
/-!
# The attributes that an expression reports matter

That no other attribute matters is shown under dependency. Here each reported one is shown to matter: there
are two features that differ in it alone and get different texts. With this, to be constant, to report no
attribute and to have one text on all features come down to the same (`reported_exactly_if_decisive`).

On a feature whose attributes are all null nothing fails, and nothing but the literals shows. Each place
where an attribute occurs then takes up the text that the attribute is given (`evaluate_insert_text`), so no
other part of the expression can hide it.
-/

namespace MapLabel

/-! ## Features that differ in one attribute -/

namespace Feature

variable {f : Feature} {n m : String} {v : AttributeValue}

/-- The features differ in one attribute at most. -/
def SameBut (n : String) (f g : Feature) : Prop := f.id = g.id ∧ ∀ m ≠ n, f.attribute? m = g.attribute? m

theorem attribute?_insert_self : (f.insert n v).attribute? n = some v := by
  simp [attribute?, insert]

theorem attribute?_insert_of_ne (hm : m ≠ n) : (f.insert n v).attribute? m = f.attribute? m := by
  have hfilter : ∀ attributes : List (String × AttributeValue),
      (attributes.filter fun a => a.1 ≠ n).lookup m = attributes.lookup m := by
    intro attributes
    induction attributes with
    | nil => rfl
    | cons a attributes ih =>
      rw [List.filter_cons, List.lookup_cons]
      split
      · rw [List.lookup_cons, ih]
      · rename_i ha
        have hne : (m == a.1) = false := by simp_all
        rw [ih, hne]
  have hne : (m == n) = false := beq_eq_false_iff_ne.2 hm
  rw [attribute?, insert, List.lookup_cons, hne]
  exact hfilter f.attributes

theorem sameBut_insert : f.SameBut n (f.insert n v) :=
  ⟨rfl, fun _ hm => (attribute?_insert_of_ne hm).symm⟩

/-- The feature with the named attributes, all of them null. -/
def ofNulls (names : List String) : Feature := { attributes := names.map fun n => (n, .null) }

theorem attribute?_ofNulls {names : List String} (hn : n ∈ names) : (ofNulls names).attribute? n = some .null := by
  induction names with
  | nil => cases hn
  | cons m names ih =>
    rw [attribute?, ofNulls, List.map_cons, List.lookup_cons]
    split
    · rfl
    · rename_i hne
      refine ih ((List.mem_cons.1 hn).resolve_left ?_)
      rintro rfl
      simp at hne

end Feature

namespace Expression

/-! ## Reported attributes and no others -/

theorem evaluate_congr_of_sameBut {e : Expression} {n : String} {f g : Feature} (hn : n ∉ e.attributes)
    (h : f.SameBut n g) : e.evaluate f = e.evaluate g :=
  evaluate_congr fun m hm => h.2 m fun hmn => hn (hmn ▸ hm)

-- Each part is evaluated on both features, so the text before the change stays general.
mutual

/-- Where an attribute was null and gets a text, the label grows by that text as often as the attribute
occurs. -/
theorem evaluate_insert_text {f : Feature} {n s : String} (hn : f.attribute? n = some .null) :
    ∀ {e : Expression} {t : String}, e.evaluate f = .ok t →
      ∃ u, e.evaluate (f.insert n (.text s)) = .ok u ∧ u.length = t.length + e.attributes.count n * s.length
  | literal text, t, h => ⟨t, h, by simp [attributes]⟩
  | field m, t, h => by
    rw [evaluate] at h ⊢
    by_cases hm : m = n
    · subst hm
      rw [hn] at h
      cases h
      rw [Feature.attribute?_insert_self]
      exact ⟨s, rfl, by simp [attributes]⟩
    · rw [Feature.attribute?_insert_of_ne hm]
      exact ⟨t, h, by simp [attributes, hm]⟩
  | concat parts, t, h => by
    rw [evaluate] at h ⊢
    exact evaluateParts_insert_text hn h

theorem evaluateParts_insert_text {f : Feature} {n s : String} (hn : f.attribute? n = some .null) :
    ∀ {ps : List Expression} {t : String}, evaluateParts f ps = .ok t →
      ∃ u, evaluateParts (f.insert n (.text s)) ps = .ok u ∧
        u.length = t.length + (attributesOfParts ps).count n * s.length
  | [], t, h => ⟨t, h, by simp [attributesOfParts]⟩
  | p :: ps, t, h => by
    rw [evaluateParts, bind_eq_ok_iff] at h
    obtain ⟨t₁, hp, h⟩ := h
    obtain ⟨t₂, hps, h⟩ := bind_eq_ok_iff.1 h
    cases h
    obtain ⟨u₁, hu₁, hlen₁⟩ := evaluate_insert_text (s := s) hn hp
    obtain ⟨u₂, hu₂, hlen₂⟩ := evaluateParts_insert_text (s := s) hn hps
    refine ⟨u₁ ++ u₂, by rw [evaluateParts, hu₁, hu₂]; rfl, ?_⟩
    rw [attributesOfParts, List.count_append, String.length_append, String.length_append, hlen₁, hlen₂, Nat.add_mul]
    omega

end

/-- A reported attribute changes the text where all others are null. -/
theorem exists_texts_of_mem {e : Expression} {n : String} (hn : n ∈ e.attributes) :
    ∃ f g t u, Feature.SameBut n f g ∧ e.evaluate f = .ok t ∧ e.evaluate g = .ok u ∧ t ≠ u := by
  have husable : ∀ m ∈ e.attributes, (Feature.ofNulls e.attributes).Usable m := fun m hm =>
    ⟨.null, Feature.attribute?_ofNulls hm, trivial⟩
  obtain ⟨t, ht⟩ := exists_evaluate_eq_ok_iff.2 husable
  obtain ⟨u, hu, hlen⟩ := evaluate_insert_text (s := "x") (Feature.attribute?_ofNulls hn) ht
  refine ⟨_, _, t, u, Feature.sameBut_insert, ht, hu, ?_⟩
  rintro rfl
  have hcount : 0 < e.attributes.count n := List.count_pos_iff.2 hn
  have hone : "x".length = 1 := rfl
  rw [hone] at hlen
  omega

theorem mem_attributeNames_iff_decisive {e : Expression} {n : String} :
    n ∈ e.attributeNames ↔ ∃ f g, Feature.SameBut n f g ∧ e.evaluate f ≠ e.evaluate g := by
  rw [mem_attributeNames]
  constructor
  · intro hn
    obtain ⟨f, g, t, u, hfg, ht, hu, htu⟩ := exists_texts_of_mem hn
    exact ⟨f, g, hfg, fun h => htu (Except.ok.inj (by rw [← ht, h, hu]))⟩
  · rintro ⟨f, g, hfg, hne⟩
    exact Decidable.byContradiction fun hn => hne (evaluate_congr_of_sameBut hn hfg)

/-! ## Constant expressions -/

theorem isConstant_iff_attributeNames {e : Expression} : e.isConstant = true ↔ e.attributeNames = [] := by
  simp only [isConstant_iff, List.eq_nil_iff_forall_not_mem, mem_attributeNames]

/-- An attribute is reported exactly if two features that differ in nothing else get different results, and
then there are two that get different texts. An expression is constant exactly if no attribute is reported,
and also exactly if it has one and the same text on all features. -/
theorem reported_exactly_if_decisive (e : Expression) :
    (∀ n, n ∈ e.attributeNames ↔ ∃ f g, Feature.SameBut n f g ∧ e.evaluate f ≠ e.evaluate g) ∧
    (∀ n, n ∈ e.attributeNames ↔
      ∃ f g t u, Feature.SameBut n f g ∧ e.evaluate f = .ok t ∧ e.evaluate g = .ok u ∧ t ≠ u) ∧
    (e.isConstant = true ↔ e.attributeNames = []) ∧
    (e.isConstant = true ↔ ∃ t, ∀ f, e.evaluate f = .ok t) := by
  refine ⟨fun n => mem_attributeNames_iff_decisive, fun n => ⟨?_, ?_⟩, isConstant_iff_attributeNames, ?_, ?_⟩
  · exact fun hn => exists_texts_of_mem (mem_attributeNames.1 hn)
  · rintro ⟨f, g, t, u, hfg, ht, hu, htu⟩
    refine mem_attributeNames_iff_decisive.2 ⟨f, g, hfg, ?_⟩
    rw [ht, hu]
    exact fun h => htu (Except.ok.inj h)
  · intro he
    have hnone : e.attributes = [] := isConstant_iff.1 he
    obtain ⟨t, ht⟩ : ∃ t, e.evaluate {} = .ok t := exists_evaluate_eq_ok_iff.2 (by simp [hnone])
    refine ⟨t, fun f => ?_⟩
    rw [← ht]
    exact evaluate_congr (by simp [hnone, Feature.AgreeOn])
  · rintro ⟨t, ht⟩
    rw [isConstant_iff_attributeNames, List.eq_nil_iff_forall_not_mem]
    intro n hn
    obtain ⟨f, g, -, hne⟩ := mem_attributeNames_iff_decisive.1 hn
    exact hne (by rw [ht, ht])

end Expression

end MapLabel
