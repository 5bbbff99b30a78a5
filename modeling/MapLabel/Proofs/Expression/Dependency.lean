import MapLabel.Expression.Collection
/-!
# What an expression depends on

An expression reads the attributes that occur in it and no others: on two features that agree on those
its value is the same (`evaluate_congr`, `evaluateNumber_congr`). A set of expressions reports exactly
the attributes that occur in its members (`mem_attributeNames`).
-/

namespace MapLabel

/-- Each of the named attributes has one value in both features, or is missing from both. -/
def Feature.AgreeOn (names : List String) (f g : Feature) : Prop :=
  ∀ n ∈ names, f.attribute? n = g.attribute? n

theorem Feature.AgreeOn.mono {names names' : List String} {f g : Feature} (h : f.AgreeOn names g)
    (hsub : names' ⊆ names) : f.AgreeOn names' g := fun n hn => h n (hsub hn)

namespace Expression

/-! ## Evaluation on features that agree -/

mutual

theorem evaluate_congr {f g : Feature} :
    ∀ {e : Expression}, Feature.AgreeOn e.attributes f g → e.evaluate f = e.evaluate g
  | literal _, _ => by rw [evaluate, evaluate]
  | field name, h => by rw [evaluate, evaluate, h name (by simp [attributes])]
  | concat parts, h => by
    rw [attributes] at h
    rw [evaluate, evaluate, evaluateParts_congr h]

theorem evaluateParts_congr {f g : Feature} :
    ∀ {ps : List Expression}, Feature.AgreeOn (attributesOfParts ps) f g → evaluateParts f ps = evaluateParts g ps
  | [], _ => rfl
  | p :: ps, h => by
    rw [attributesOfParts] at h
    have hp : p.evaluate f = p.evaluate g := evaluate_congr (h.mono (List.subset_append_left _ _))
    have hps : evaluateParts f ps = evaluateParts g ps := evaluateParts_congr (h.mono (List.subset_append_right _ _))
    rw [evaluateParts, evaluateParts, hp, hps]

end

theorem evaluateNumber_congr {f g : Feature} {e : Expression} (h : f.AgreeOn e.attributes g) :
    e.evaluateNumber f = e.evaluateNumber g := by
  rw [evaluateNumber, evaluateNumber, evaluate_congr h]

/-! ## Reported names -/

theorem mem_sortNames {n : String} {names : List String} : n ∈ sortNames names ↔ n ∈ names := by
  rw [sortNames, List.mem_mergeSort, List.mem_eraseDups]

theorem mem_attributeNames {e : Expression} {n : String} : n ∈ e.attributeNames ↔ n ∈ e.attributes := mem_sortNames

mutual

theorem isConstant_iff : ∀ {e : Expression}, e.isConstant = true ↔ e.attributes = []
  | literal _ => by simp [isConstant, attributes]
  | field _ => by simp [isConstant, attributes]
  | concat parts => by rw [isConstant, attributes, allConstant_iff]

theorem allConstant_iff : ∀ {ps : List Expression}, allConstant ps = true ↔ attributesOfParts ps = []
  | [] => by simp [allConstant, attributesOfParts]
  | p :: ps => by
    rw [allConstant, attributesOfParts, Bool.and_eq_true, List.append_eq_nil_iff, isConstant_iff, allConstant_iff]

end

end Expression

namespace ExpressionSet

theorem mem_insert {s : ExpressionSet} {e e' : Expression} : e' ∈ s.insert e ↔ e' ∈ s ∨ e' = e := by
  simp only [Membership.mem, insert]
  split
  · rename_i h
    refine ⟨.inl, ?_⟩
    rintro (h' | rfl)
    · exact h'
    · exact h
  · exact List.mem_append.trans (or_congr_right List.mem_singleton)

theorem mem_attributeNames {s : ExpressionSet} {n : String} :
    n ∈ s.attributeNames ↔ ∃ e ∈ s, n ∈ e.attributes := by
  rw [attributeNames, Expression.mem_sortNames, List.mem_flatMap]
  rfl

end ExpressionSet

end MapLabel
