import MapLabel.Placement.Candidates
import MapLabel.Proofs.Label.Leaves
import MapLabel.Proofs.Style.Layers
/-!
# Which layer settles what

A run gets its style in layers: the style of the defaults, the patch of the candidate, and the patches on
the way to the leaf. `style_settled_by_layers`: each field of the style is settled by the innermost layer
that sets it, for itself, and each other parameter of a placement by the candidate or else by the defaults.
-/

namespace MapLabel

/-! ## Fields of placements -/

namespace Placement

/-- The values that a field can have. -/
def Field.Value : Field → Type
  | style => Style
  | displacement => Displacement
  | attachment => Attachment
  | horizontalAlignment => HorizontalAlignment
  | verticalAlignment => VerticalAlignment
  | justification => Justification
  | avoidEdges | forceOddLabels | allowOverlap => Bool
  | labelSpacing | labelPositionTolerance | minimumDistance | minimumPadding | minimumPathLength
  | maxCharAngleDelta | textRatio | wrapWidth => Float

/-- The value of a field. -/
def get (p : Placement) : (k : Field) → k.Value
  | .style => p.style
  | .displacement => p.displacement
  | .attachment => p.attachment
  | .horizontalAlignment => p.horizontalAlignment
  | .verticalAlignment => p.verticalAlignment
  | .justification => p.justification
  | .labelSpacing => p.labelSpacing
  | .labelPositionTolerance => p.labelPositionTolerance
  | .avoidEdges => p.avoidEdges
  | .minimumDistance => p.minimumDistance
  | .minimumPadding => p.minimumPadding
  | .minimumPathLength => p.minimumPathLength
  | .maxCharAngleDelta => p.maxCharAngleDelta
  | .forceOddLabels => p.forceOddLabels
  | .allowOverlap => p.allowOverlap
  | .textRatio => p.textRatio
  | .wrapWidth => p.wrapWidth

/-- The value to which the patch sets a field. The style is never set as a whole. -/
def Patch.get? (a : Patch) : (k : Field) → Option k.Value
  | .style => none
  | .displacement => a.displacement
  | .attachment => a.attachment
  | .horizontalAlignment => a.horizontalAlignment
  | .verticalAlignment => a.verticalAlignment
  | .justification => a.justification
  | .labelSpacing => a.labelSpacing
  | .labelPositionTolerance => a.labelPositionTolerance
  | .avoidEdges => a.avoidEdges
  | .minimumDistance => a.minimumDistance
  | .minimumPadding => a.minimumPadding
  | .minimumPathLength => a.minimumPathLength
  | .maxCharAngleDelta => a.maxCharAngleDelta
  | .forceOddLabels => a.forceOddLabels
  | .allowOverlap => a.allowOverlap
  | .textRatio => a.textRatio
  | .wrapWidth => a.wrapWidth

theorem Patch.get_applyTo (a : Patch) (p : Placement) {k : Field} (hk : k ≠ .style) :
    (a.applyTo p).get k = (a.get? k).getD (p.get k) := by
  cases k with
  | style => contradiction
  | _ => rfl

/-- A placement without content has no runs, any other one for each leaf. -/
theorem label_runs (p : Placement) (f : Feature) :
    (p.label f).runs = ((p.content.map Content.leaves).getD []).map (Content.Leaf.run p.style f) := by
  unfold label labelInto
  cases p.content with
  | none => rfl
  | some content =>
    dsimp only
    rw [Content.render_eq_addLeaves]
    exact List.nil_append _

end Placement

namespace Candidates

open Style.Patch (lastSet? lastSet?_eq_none lastSet?_eq_some lastSet?_congr get_foldl_applyTo)

/-- The leaves of the content in force for a candidate, which is its own one or else that of the defaults. -/
def leaves (c : Candidates) (a : Placement.Patch) : List Content.Leaf :=
  ((a.content.or c.defaults.content).map Content.leaves).getD []

/-- The layers of a run's style, the innermost first. -/
theorem get_run_style (a : Placement.Patch) (p : Placement) (f : Feature) (l : Content.Leaf) (k : Style.Field) :
    (l.run (a.applyTo p).style f).style.get k =
      ((lastSet? k l.patches).or (a.style.get? k)).getD (p.style.get k) := by
  have hleaf : (l.run (a.applyTo p).style f).style =
      l.patches.foldl (fun s q => q.applyTo s) (a.style.applyTo p.style) := rfl
  rw [hleaf, get_foldl_applyTo, Style.Patch.get_applyTo, Option.getD_or]

theorem fontset_run_isSome_iff (a : Placement.Patch) (p : Placement) (f : Feature) (l : Content.Leaf) :
    (l.run (a.applyTo p).style f).style.fontset.isSome ↔
      p.style.fontset.isSome ∨ a.style.fontset.isSome ∨ ∃ q ∈ l.patches, q.fontset.isSome := by
  -- The candidate is one more patch, in front of those within its content.
  have hrow := Style.Patch.fontset_foldl_applyTo_isSome_iff (a.style :: l.patches) p.style
  rwa [List.exists_mem_cons_iff] at hrow

/-- Every field of the style of a run, and every other parameter of the placement, has the value that the
innermost of its layers sets. Two runs agree in a field if their layers do to it the same, whatever else is
different in their lists of candidates, their contents and their features. -/
theorem style_settled_by_layers {c : Candidates} {i : Nat} {a : Placement.Patch} (ha : c.patches[i]? = some a)
    (f : Feature) :
    ∃ p, c.resolve? i = some p ∧
      (p.label f).runs = (c.leaves a).map (Content.Leaf.run p.style f) ∧
      (∀ l ∈ c.leaves a, ∀ k : Style.Field,
        (∀ outer q inner v, l.patches = outer ++ q :: inner → q.get? k = some v →
          (∀ q' ∈ inner, q'.get? k = none) → (l.run p.style f).style.get k = v) ∧
        ((∀ q ∈ l.patches, q.get? k = none) →
          (l.run p.style f).style.get k = (a.style.get? k).getD (c.defaults.style.get k))) ∧
      (∀ l ∈ c.leaves a, (l.run p.style f).style.fontset.isSome ↔
        c.defaults.style.fontset.isSome ∨ a.style.fontset.isSome ∨ ∃ q ∈ l.patches, q.fontset.isSome) ∧
      (∀ (c' : Candidates) (i' : Nat) (a' : Placement.Patch) (p' : Placement) (f' : Feature),
        c'.patches[i']? = some a' → c'.resolve? i' = some p' →
        ∀ l ∈ c.leaves a, ∀ l' ∈ c'.leaves a', ∀ k : Style.Field,
          l.patches.map (·.get? k) = l'.patches.map (·.get? k) → a.style.get? k = a'.style.get? k →
          c.defaults.style.get k = c'.defaults.style.get k →
          (l.run p.style f).style.get k = (l'.run p'.style f').style.get k) ∧
      p.content = a.content.or c.defaults.content ∧
      p.orientation = a.orientation.or c.defaults.orientation ∧
      ∀ k ≠ Placement.Field.style, p.get k = (a.get? k).getD (c.defaults.get k) := by
  have hresolve : ∀ {c : Candidates} {i : Nat} {a : Placement.Patch}, c.patches[i]? = some a →
      c.resolve? i = some (a.applyTo c.defaults) := by
    intro c i a ha
    rw [resolve?, ha]
    rfl
  refine ⟨a.applyTo c.defaults, hresolve ha, Placement.label_runs _ f, fun l _ k => ⟨?_, ?_⟩,
    fun l _ => fontset_run_isSome_iff a c.defaults f l, ?_, rfl, rfl,
    fun k hk => Placement.Patch.get_applyTo a c.defaults hk⟩
  · rintro outer q inner v hpatches hq hinner
    rw [get_run_style, hpatches, lastSet?_eq_some hq hinner]
    rfl
  · intro hnone
    rw [get_run_style, lastSet?_eq_none hnone]
    rfl
  · intro c' i' a' p' f' ha' hp' l _ l' _ k hpatches hcandidate hdefaults
    rw [hresolve ha'] at hp'
    cases hp'
    rw [get_run_style, get_run_style, lastSet?_congr hpatches, hcandidate, hdefaults]

/-- A large name with a small number behind it, in a fontset of their own. The candidate lets both fade. -/
def nameAndNumber : Candidates :=
  ⟨{ content := some (.styled { textSize := some 12, fontset := some "serif" }
      (.list [.text (.literal "Elbe"), .styled { textSize := some 8 } .featureId])) },
    [{ style := { opacity := some 0.5 } }]⟩

theorem style_settled_by_layers_nameAndNumber :
    ∃ a p l, nameAndNumber.patches[0]? = some a ∧ nameAndNumber.resolve? 0 = some p ∧
      (nameAndNumber.leaves a)[1]? = some l ∧
      (p.label { id := 7 }).runs[1]? = some (l.run p.style { id := 7 }) ∧
      (l.run p.style { id := 7 }).style.get .textSize = (8 : Float) ∧
      (l.run p.style { id := 7 }).style.get .opacity = (0.5 : Float) ∧
      (l.run p.style { id := 7 }).style.fontset.isSome := by
  have ha : nameAndNumber.patches[0]? = some { style := { opacity := some 0.5 } } := rfl
  obtain ⟨p, hp, hruns, hlayers, hfontset, -⟩ := style_settled_by_layers ha { id := 7 }
  have hl : (nameAndNumber.leaves { style := { opacity := some 0.5 } })[1]? =
      some ⟨[{ textSize := some 12, fontset := some "serif" }, { textSize := some 8 }], .featureId⟩ := rfl
  have hmem := List.mem_of_getElem? hl
  refine ⟨_, p, _, ha, hp, hl, by rw [hruns, List.getElem?_map, hl]; rfl, ?_, ?_, ?_⟩
  · exact (hlayers _ hmem .textSize).1 [_] _ [] (8 : Float) rfl rfl (List.forall_mem_nil _)
  · refine (hlayers _ hmem .opacity).2 fun q hq => ?_
    rcases List.mem_cons.1 hq with rfl | hq
    · rfl
    · rw [List.mem_singleton.1 hq]
      rfl
  · exact (hfontset _ hmem).2 (.inr (.inr ⟨_, List.mem_cons_self, rfl⟩))

end Candidates

end MapLabel
