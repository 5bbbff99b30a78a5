import MapLabel.Proofs.Config.Records
import MapLabel.Proofs.Label.Styles
import MapLabel.Proofs.Placement.History
import MapLabel.Proofs.Style.Drawable
/-!
# No label in an unusable style

A label gets its styles in three layers, each of them checked at another time: the style of the defaults,
the style patch of the candidate, and the patches within the content. `runs_drawable`: wherever a list of
candidates came from and however it was edited, every run of every label of its candidates is in a style
that passes the check.
-/

namespace MapLabel

/-! ## Contents that were put together -/

/-- The content of the placement, if there is one, was put together. -/
def Placement.Built (p : Placement) : Prop := ∀ c ∈ p.content, c.Built

def Placement.Patch.Built (a : Placement.Patch) : Prop := ∀ c ∈ a.content, c.Built

theorem Placement.built_of_bare {p : Placement} (h : p.content = none) : p.Built := by
  intro c hc
  rw [h] at hc
  cases hc

theorem Placement.Patch.built_of_bare {a : Placement.Patch} (h : a.content = none) : a.Built := by
  intro c hc
  rw [h] at hc
  cases hc

theorem Placement.Patch.Built.applyTo {a : Placement.Patch} {p : Placement} (ha : a.Built) (hp : p.Built) :
    (a.applyTo p).Built := by
  intro c hc
  rcases Option.or_eq_some_iff.1 hc with hc | ⟨-, hc⟩
  · exact ha c hc
  · exact hp c hc

/-- The label of a placement whose style is valid is usable. -/
theorem Placement.Built.label_usable {p : Placement} (hp : p.Built) (hs : p.style.Valid) (f : Feature) :
    (p.label f).Usable := by
  unfold label labelInto
  cases hc : p.content with
  | some c => exact (hp c hc).usable hs f Label.usable_empty
  | none => exact Label.usable_empty

namespace Candidates

/-- All contents in the list were put together. -/
def Built (c : Candidates) : Prop := c.defaults.Built ∧ ∀ a ∈ c.patches, a.Built

/-- All contents that the list is made with were put together. A style file holds none. -/
def Origin.Built : Origin → Prop
  | default | defaultSingle | file _ => True
  | ofDefaults p | single p => p.Built
  | ofPatches p patches => Candidates.Built ⟨p, patches⟩

/-- The content that the edit brings in, if any, was put together. -/
def Edit.Built : Edit → Prop
  | push a => a.Built
  | setDefaults p => p.Built
  | setStyle _ => True

theorem single_built {p : Placement} (hp : p.Built) : Built ⟨p, [∅]⟩ := by
  refine ⟨hp, fun a ha => ?_⟩
  rw [List.mem_singleton.1 ha]
  exact Placement.Patch.built_of_bare rfl

theorem given_built {o : Origin} {c : Candidates} (h : o.given? = some c) (ho : o.Built) : c.Built := by
  cases o with
  | default =>
    cases h
    exact ⟨Placement.built_of_bare rfl, List.forall_mem_nil _⟩
  | defaultSingle =>
    cases h
    exact single_built (Placement.built_of_bare rfl)
  | ofDefaults p =>
    cases h
    exact ⟨ho, List.forall_mem_nil _⟩
  | single p =>
    cases h
    exact single_built ho
  | ofPatches p patches =>
    cases h
    exact ho
  | file v =>
    obtain ⟨hdefaults, hpatches⟩ := Config.rawCandidates_bare (toOption_eq_some_iff.1 h)
    exact ⟨Placement.built_of_bare hdefaults.1, fun a ha => Placement.Patch.built_of_bare (hpatches a ha).1⟩

theorem Edit.apply_built {c : Candidates} {e : Edit} (he : e.Built) (hc : c.Built) : (e.apply c).2.Built := by
  rcases apply_cases c e with ⟨-, ha⟩ | ⟨err, -, ha⟩
  · rw [ha]
    cases e with
    | push a =>
      refine ⟨hc.1, fun b hb => ?_⟩
      rcases List.mem_append.1 hb with hb | hb
      · exact hc.2 b hb
      · rw [List.mem_singleton.1 hb]
        exact he
    | setDefaults p => exact ⟨he, hc.2⟩
    | setStyle s => exact hc
  · rwa [ha]

theorem run_built {c : Candidates} {es : List Edit} (hes : ∀ e ∈ es, e.Built) (hc : c.Built) : (run c es).2.Built := by
  induction es generalizing c with
  | nil => exact hc
  | cons e es ih =>
    obtain ⟨he, hes⟩ := List.forall_mem_cons.1 hes
    exact ih hes (Edit.apply_built he hc)

/-- After any edits, whatever became of them, every candidate of a list has a placement, and every run of
its label for any feature is in a style that passes the check. The same holds if some other node that was
put together draws in place of the content. -/
theorem runs_drawable {o : Origin} {c d : Candidates} {es : List Edit} {log : Log} (ho : o.list? = some c)
    (hrun : run c es = (log, d)) (hcontents : o.Built) (hedits : ∀ e ∈ es, e.Built) {i : Nat} (hi : i < d.size)
    (f : Feature) :
    ∃ p, d.resolve? i = some p ∧
      (∀ r ∈ (p.label f).runs, r.style.validate = .ok () ∧ r.style.Drawable) ∧
      ∀ n : Node, n.Built → ∀ r ∈ (n p.style f ∅).runs, r.style.validate = .ok () ∧ r.style.Drawable := by
  obtain ⟨rfl, rfl⟩ := Prod.mk.inj hrun
  obtain ⟨hgiven, hvalid⟩ := list?_eq_some ho
  obtain ⟨p, hp, hpvalid⟩ := resolve?_valid (run_valid hvalid es) hi
  have hstyle : p.style.Valid := (Placement.validate_eq_ok_iff.1 hpvalid).1
  have hbuilt : p.Built := by
    obtain ⟨hdefaults, hpatches⟩ := run_built hedits (given_built hgiven hcontents)
    obtain ⟨a, ha, rfl⟩ := Option.map_eq_some_iff.1 hp
    exact (hpatches a (List.mem_of_getElem? ha)).applyTo hdefaults
  have hdrawable : ∀ l : Label, l.Usable → ∀ r ∈ l.runs, r.style.validate = .ok () ∧ r.style.Drawable :=
    fun l hl r hr => ⟨hl r hr, Style.validate_eq_ok_iff_drawable.1 (hl r hr)⟩
  exact ⟨p, hp, hdrawable _ (hbuilt.label_usable hstyle f),
    fun n hn => hdrawable _ (hn.usable hstyle f Label.usable_empty)⟩

/-- A half-transparent name, after an attempt to make its letters vanish. -/
def fadedName : StyledContent :=
  (StyledContent.setPatch ⟨{ opacity := some 0.5 }, .list [.text (.literal "Elbe"), .featureId]⟩
    { textSize := some 0 }).2

theorem runs_drawable_fadedName :
    ∃ d p, (run ⟨{ content := some fadedName.toContent }, [∅]⟩
        [.setStyle { opacity := 3 }, .push (.withTextSize ∅ 8)]).2 = d ∧
      d.size = 2 ∧ d.resolve? 1 = some p ∧
      (p.label { id := 7 }).runs =
        [⟨"Elbe", { textSize := 8, opacity := 0.5 }⟩, ⟨"#7", { textSize := 8, opacity := 0.5 }⟩] ∧
      ∀ r ∈ (p.label { id := 7 }).runs, r.style.validate = .ok () ∧ r.style.Drawable := by
  generalize hdefaults : ({ content := some fadedName.toContent } : Placement) = defaults
  have hvalid : defaults.Valid := by
    subst hdefaults
    exact Placement.valid_default
  have ho : (Origin.single defaults).list? = some ⟨defaults, [∅]⟩ :=
    toOption_eq_some_iff.2 (single_eq_ok_iff.2 ⟨hvalid, rfl⟩)
  have hbuilt : defaults.Built := by
    subst hdefaults
    intro c hc
    cases hc
    refine .styled (.setPatch _ (.new (Content.styled?_eq_ok_iff.2 ⟨?_, rfl⟩) (.list ?_)))
    · exact Style.Patch.validate_eq_ok_iff.2 (by decide)
    · simp [Content.Built.text, Content.Built.featureId]
  have hedits : ∀ e ∈ [Edit.setStyle { opacity := 3 }, .push (.withTextSize ∅ 8)], e.Built :=
    List.forall_mem_cons.2 ⟨trivial, List.forall_mem_singleton.2 (Placement.Patch.built_of_bare rfl)⟩
  have hsize : (run ⟨defaults, [∅]⟩ [.setStyle { opacity := 3 }, .push (.withTextSize ∅ 8)]).2.size = 2 := by rfl
  obtain ⟨p, hp, hruns, -⟩ := runs_drawable ho rfl hbuilt hedits (hsize ▸ Nat.one_lt_two) { id := 7 }
  refine ⟨_, p, rfl, hsize, hp, ?_, hruns⟩
  subst hdefaults
  cases hp
  rfl

end Candidates

end MapLabel
