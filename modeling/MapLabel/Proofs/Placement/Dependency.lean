import MapLabel.Labeler.Basic
import MapLabel.Proofs.Label.Dependency
/-!
# What a placement depends on

A placement reads its orientation and its content. `reported_attributes_determine`: whatever a source
is and whichever of its candidates is tried, the label and its rotation depend on the feature's
identifier and on the attributes that the labeler reports, and on nothing else of the feature.

A candidate of a list may have its content and orientation from its own patch or from the defaults, so
both are collected. The other sources collect from the defaults alone, which suffices because they
change neither.
-/

namespace MapLabel

namespace Placement

/-! ## The expressions that a placement reads -/

/-- The expression is the orientation or stands in the content. -/
def ReadBy (orientation : Option Expression) (content : Option Content) (e : Expression) : Prop :=
  orientation = some e ∨ ∃ c, content = some c ∧ c.Reads e

theorem mem_collectFrom {orientation : Option Expression} {content : Option Content} {s : ExpressionSet}
    {e : Expression} : e ∈ collectFrom orientation content s ↔ e ∈ s ∨ ReadBy orientation content e := by
  unfold collectFrom ReadBy
  cases orientation <;> cases content <;>
    simp [Content.mem_collect, ExpressionSet.mem_insert, or_assoc, eq_comm]

def Reads (p : Placement) (e : Expression) : Prop := ReadBy p.orientation p.content e

theorem mem_collect {p : Placement} {s : ExpressionSet} {e : Expression} :
    e ∈ p.collect s ↔ e ∈ s ∨ p.Reads e := mem_collectFrom

namespace Patch

def Reads (a : Patch) (e : Expression) : Prop := ReadBy a.orientation a.content e

theorem mem_collect {a : Patch} {s : ExpressionSet} {e : Expression} :
    e ∈ a.collect s ↔ e ∈ s ∨ a.Reads e := mem_collectFrom

/-- What stands in the patched placement comes from the patch or from the placement below it. -/
theorem reads_applyTo {a : Patch} {p : Placement} {e : Expression} (h : (a.applyTo p).Reads e) :
    a.Reads e ∨ p.Reads e := by
  rcases h with ho | ⟨c, hc, he⟩
  · rcases Option.or_eq_some_iff.1 ho with ho | ⟨-, ho⟩
    · exact .inl (.inl ho)
    · exact .inr (.inl ho)
  · rcases Option.or_eq_some_iff.1 hc with hc | ⟨-, hc⟩
    · exact .inl (.inr ⟨c, hc, he⟩)
    · exact .inr (.inr ⟨c, hc, he⟩)

end Patch

/-! ## Placements on features that agree -/

section Agreement

variable {p : Placement} {f g : Feature}

theorem label_congr (hid : f.id = g.id) (h : ∀ e, p.Reads e → f.AgreeOn e.attributes g) : p.label f = p.label g := by
  unfold label labelInto
  split
  · rename_i c hc
    exact Content.render_congr hid (fun e he => Expression.evaluate_congr (h e (.inr ⟨c, hc, he⟩))) p.style ∅
  · rfl

theorem angle_congr (h : ∀ e, p.Reads e → f.AgreeOn e.attributes g) : p.angle f = p.angle g := by
  unfold angle
  split
  · rename_i e he
    exact Expression.evaluateNumber_congr (h e (.inl he))
  · rfl

end Agreement

end Placement

/-! ## Sources report what their candidates read -/

theorem Candidates.mem_collect {c : Candidates} {s : ExpressionSet} {e : Expression} :
    e ∈ c.collect s ↔ e ∈ s ∨ c.defaults.Reads e ∨ ∃ a ∈ c.patches, a.Reads e := by
  have hfold : ∀ (patches : List Placement.Patch) (s : ExpressionSet),
      e ∈ patches.foldl (fun s a => a.collect s) s ↔ e ∈ s ∨ ∃ a ∈ patches, a.Reads e := by
    intro patches
    induction patches with
    | nil => simp
    | cons a patches ih =>
      intro s
      rw [List.foldl_cons, ih, Placement.Patch.mem_collect, or_assoc]
      simp
  rw [collect, hfold, Placement.mem_collect, or_assoc]

namespace AnySource

/-- Every expression that a candidate reads is collected, whether it stands in the defaults or not. -/
theorem mem_collect_of_reads {source : AnySource} {i : Nat} {p : Placement}
    (hp : CandidateSource.candidate? source i = some p) {e : Expression} (he : p.Reads e) (s : ExpressionSet) :
    e ∈ CandidateSource.collect source s := by
  cases source with
  | candidates c =>
    obtain ⟨a, ha, rfl⟩ := Option.map_eq_some_iff.1 hp
    refine Candidates.mem_collect.2 (.inr ?_)
    rcases Placement.Patch.reads_applyTo he with he | he
    · exact .inr ⟨a, List.mem_of_getElem? ha, he⟩
    · exact .inl he
  | zigzag z =>
    obtain ⟨-, hq⟩ := Option.ite_none_right_eq_some.1 hp
    obtain rfl := Option.some.inj hq
    exact Placement.mem_collect.2 (.inr he)
  | shrinking t =>
    obtain ⟨-, hq⟩ := Option.ite_none_right_eq_some.1 hp
    obtain rfl := Option.some.inj hq
    exact Placement.mem_collect.2 (.inr he)

end AnySource

/-- Two features with one identifier that agree on the attributes that a labeler reports get the same
label, runs and errors alike, and the same rotation, from every candidate. -/
theorem Labeler.reported_attributes_determine {source : AnySource} {f g : Feature} (hid : f.id = g.id)
    (h : ∀ n ∈ (Labeler.expressions source).attributeNames, f.attribute? n = g.attribute? n) {i : Nat}
    {p : Placement} (hp : CandidateSource.candidate? source i = some p) :
    p.label f = p.label g ∧ p.angle f = p.angle g := by
  have hread : ∀ e, p.Reads e → f.AgreeOn e.attributes g := fun e he n hn =>
    h n (ExpressionSet.mem_attributeNames.2 ⟨e, AnySource.mem_collect_of_reads hp he ∅, hn⟩)
  exact ⟨Placement.label_congr hid hread, Placement.angle_congr hread⟩

/-- The second candidate has a content of its own and turns as the defaults say. Neither mentions the
attribute in which the features differ. -/
theorem Labeler.hidden_attribute_not_shown :
    let text : Expression := .concat [.field "ref", .field "gone"]
    let source : AnySource := .candidates
      ⟨{ content := some (.text (.field "name")), orientation := some (.field "angle") },
        [∅, { content := some (.styled { opacity := some 0.5 } (.list [.text text, .featureId])) }]⟩
    let f : Feature := ⟨7, [("ref", .text "A 1"), ("angle", .integer 30), ("hidden", .bool true)]⟩
    let g : Feature := ⟨7, [("angle", .integer 30), ("hidden", .null), ("ref", .text "A 1")]⟩
    f.id = g.id ∧ (∀ n ∈ (Labeler.expressions source).attributeNames, f.attribute? n = g.attribute? n) ∧
      ∃ p, CandidateSource.candidate? source 1 = some p ∧ p.label f = p.label g ∧ p.angle f = p.angle g := by
  intro text source f g
  have hagree : ∀ n ∈ (Labeler.expressions source).attributeNames, f.attribute? n = g.attribute? n := by
    simp only [ExpressionSet.attributeNames, Expression.mem_sortNames]
    decide
  have hid : f.id = g.id := rfl
  obtain ⟨p, hp⟩ : ∃ p, CandidateSource.candidate? source 1 = some p := ⟨_, rfl⟩
  exact ⟨hid, hagree, p, hp, Labeler.reported_attributes_determine hid hagree hp⟩

end MapLabel
