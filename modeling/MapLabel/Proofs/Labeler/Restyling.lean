import MapLabel.Proofs.Labeler.Sharing
import MapLabel.Proofs.Placement.History
import MapLabel.Proofs.Placement.Layers
/-!
# Changing the default style

The default style can be changed by itself or along with all defaults, in a list of candidates or through a
labeler. These ways check more or less: the style alone, the style and then all defaults, all defaults at
once. `restyling_ways_agree`: they have the same outcome and leave the same behind, and a changed style shows
in a candidate only where the candidate sets no style of its own.

If the style is refused, it is the first thing that a check of all defaults finds (`validate_refused_style`).
If it is not, the rest of the defaults counts as well. A labeler checks it in either way, and in a list it
is valid from the start.
-/

namespace MapLabel

theorem Placement.validate_refused_style {p : Placement} {s : Style} {e : StyleError} (h : s.validate = .error e) :
    ({ p with style := s } : Placement).validate = .error (.style e) := by
  rw [validate]
  dsimp only
  rw [h]

/-! ## Lists of candidates -/

namespace Candidates

variable {c d : Candidates} {s : Style}

/-- The rest of the defaults needs no check, as it has passed one before. -/
theorem setStyle_eq_setDefaults (hc : c.Valid) (s : Style) :
    c.setStyle s = c.setDefaults { c.defaults with style := s } := by
  unfold setStyle setDefaults
  cases hs : s.validate with
  | error e =>
    rw [Placement.validate_refused_style hs]
    rfl
  | ok =>
    have hp := Placement.valid_withStyle hc.1 (Style.validate_eq_ok_iff.1 hs)
    rw [Placement.validate_eq_ok_iff.2 hp]
    rfl

/-- As an edit of the list, the one can stand for the other. -/
theorem Edit.apply_setStyle (hc : c.Valid) (s : Style) :
    (Edit.setStyle s).apply c = (Edit.setDefaults { c.defaults with style := s }).apply c := by
  rw [apply, apply, setStyle_eq_setDefaults hc]

theorem Edit.apply_setDefaults (c : Candidates) (p : Placement) :
    (Edit.setDefaults p).apply c = CandidateSource.setDefaults c p := rfl

/-- The two lists differ in the style of the defaults, which is `s` in the second, and therefore in what their
candidates take from it. -/
structure Restyled (s : Style) (c d : Candidates) : Prop where
  defaults : d.defaults = { c.defaults with style := s }
  patches : d.patches = c.patches
  missing : ∀ i, c.patches[i]? = none → c.resolve? i = none ∧ d.resolve? i = none
  resolved : ∀ i a, c.patches[i]? = some a → ∃ p q, c.resolve? i = some p ∧ d.resolve? i = some q ∧
    q = { p with style := q.style } ∧
    ∀ k : Style.Field, (a.style.get? k = none → q.style.get k = s.get k) ∧
      (a.style.get? k ≠ none → q.style.get k = p.style.get k)

theorem restyled_withStyle (c : Candidates) (s : Style) :
    Restyled s c { c with defaults := { c.defaults with style := s } } where
  defaults := rfl
  patches := rfl
  missing i hi := by simp only [resolve?, hi, Option.map_none, and_self]
  resolved i a ha := by
    refine ⟨a.applyTo c.defaults, a.applyTo { c.defaults with style := s }, ?_, ?_, rfl, fun k => ⟨fun hk => ?_, ?_⟩⟩
    · rw [resolve?, ha]; rfl
    · rw [resolve?, ha]; rfl
    · exact (Style.Patch.get_applyTo a.style s k).trans (by rw [hk]; rfl)
    · intro hk
      obtain ⟨v, hv⟩ := Option.ne_none_iff_exists'.1 hk
      have hset : ∀ t : Style, (a.style.applyTo t).get k = v := fun t => by rw [Style.Patch.get_applyTo, hv]; rfl
      exact (hset s).trans (hset c.defaults.style).symm

theorem restyled_of_accepted (h : ((Edit.setStyle s).apply c).1 = .ok ()) :
    Restyled s c ((Edit.setStyle s).apply c).2 := by
  rcases Edit.apply_cases c (.setStyle s) with ⟨-, ha⟩ | ⟨e, -, ha⟩
  · rw [ha]
    exact restyled_withStyle c s
  · rw [ha] at h
    cases h

end Candidates

/-! ## Sources -/

namespace AnySource

/-- The source over other defaults, and the same in all else. -/
def withDefaults : AnySource → Placement → AnySource
  | candidates c, p => candidates { c with defaults := p }
  | zigzag z, p => zigzag { z with defaults := p }
  | shrinking s, p => shrinking { s with defaults := p }

theorem defaults_withDefaults (source : AnySource) (p : Placement) :
    CandidateSource.defaults (source.withDefaults p) = p := by
  cases source <;> rfl

/-- A source that is edited as a whole or not at all is so too as one of several kinds. -/
theorem wrapped_cases {σ : Type} (wrap : σ → AnySource) {check : Except PlacementError Unit} {before after : σ}
    {r : Except PlacementError Unit × σ}
    (h : (check = .ok () ∧ r = (.ok (), after)) ∨ ∃ e, check = .error e ∧ r = (.error e, before)) :
    (check = .ok () ∧ Prod.map id wrap r = (.ok (), wrap after)) ∨
    ∃ e, check = .error e ∧ Prod.map id wrap r = (.error e, wrap before) := by
  rcases h with ⟨hok, rfl⟩ | ⟨e, he, rfl⟩
  · exact .inl ⟨hok, rfl⟩
  · exact .inr ⟨e, he, rfl⟩

theorem setDefaults_cases (source : AnySource) (p : Placement) :
    (p.validate = .ok () ∧ CandidateSource.setDefaults source p = (.ok (), source.withDefaults p)) ∨
    ∃ e, p.validate = .error e ∧ CandidateSource.setDefaults source p = (.error e, source) := by
  cases source with
  | candidates c => exact wrapped_cases candidates (editing_cases c p.validate fun c => { c with defaults := p })
  | zigzag z => exact wrapped_cases zigzag (editing_cases z p.validate fun z => { z with defaults := p })
  | shrinking s => exact wrapped_cases shrinking (editing_cases s p.validate fun s => { s with defaults := p })

theorem setDefaults_refused_style {source : AnySource} {s : Style} {e : StyleError} (h : s.validate = .error e) :
    CandidateSource.setDefaults source (Labeler.restyled source s) = (.error (.style e), source) := by
  have hp : (Labeler.restyled source s).validate = .error (.style e) := Placement.validate_refused_style h
  rcases setDefaults_cases source (Labeler.restyled source s) with ⟨hok, -⟩ | ⟨e', he', hset⟩
  · cases hok.symm.trans hp
  · rw [hset, Except.error.inj (he'.symm.trans hp)]

end AnySource

/-- To check the style in front of all defaults changes nothing. -/
theorem Labeler.editStyle_eq_edit (source : AnySource) (s : Style) :
    editStyle source s = edit source (restyled source s) := by
  unfold editStyle
  cases hs : s.validate with
  | error e => rw [edit, AnySource.setDefaults_refused_style hs]
  | ok => rfl

theorem Labeler.editStyle_candidates {c : Candidates} (hc : c.Valid) (s : Style) :
    editStyle (AnySource.candidates c) s =
      Prod.map id AnySource.candidates ((Candidates.Edit.setStyle s).apply c) := by
  rw [editStyle_eq_edit, edit_eq_setDefaults, Candidates.Edit.apply_setStyle hc, Candidates.Edit.apply_setDefaults]
  rfl

/-! ## Labelers -/

namespace Workshop

variable {w : Workshop AnySource} {v : Bench AnySource} {name : String} {source : AnySource}

theorem Mirrors.setStyle_eq_setPlacement (h : w.Mirrors v) (name : String) (s : Style) :
    w.setStyle? name s = (w.source? name).bind fun source => w.setPlacement? name (Labeler.restyled source s) := by
  rcases h.cases_labeler name with ⟨ha, -⟩ | ⟨a, source, ha, hs, -⟩
  · have hnone : w.source? name = none := by rw [source?, ha]; rfl
    rw [setStyle?, hnone]
    rfl
  · have hsource : w.source? name = some source := by rw [source?, ha]; exact hs
    rw [setStyle?, hsource, Option.bind_some]
    dsimp only
    cases hstyle : s.validate with
    | error e => exact (h.setPlacement_refused ha hs (by rw [AnySource.setDefaults_refused_style hstyle])).symm
    | ok => rfl

/-- A labeler comes to show what the edit makes of a source of one's own. -/
theorem Mirrors.setStyle_shows (h : w.Mirrors v) (hs : w.source? name = some source) (s : Style) :
    ∃ w', w.setStyle? name s = some ((Labeler.editStyle source s).1, w') ∧
      w'.source? name = some (Labeler.editStyle source s).2 := by
  obtain ⟨a, ha, hsource⟩ := Option.bind_eq_some_iff.1 hs
  obtain ⟨w', hrequest, hmirrors⟩ := h.setStyle ha hsource s
  exact ⟨w', hrequest, h.source?_of_replace hs hmirrors⟩

/-- An accepted style is all that is new. -/
theorem Mirrors.setStyle_accepted {w' : Workshop AnySource} {s : Style} (h : w.Mirrors v)
    (hs : w.source? name = some source) (hr : w.setStyle? name s = some (.ok (), w')) :
    w'.source? name = some (source.withDefaults (Labeler.restyled source s)) := by
  obtain ⟨u, hrequest, hshows⟩ := h.setStyle_shows hs s
  obtain ⟨hok, rfl⟩ := Prod.mk.inj (Option.some.inj (hrequest.symm.trans hr))
  rw [Labeler.editStyle_eq_edit, Labeler.edit_eq_setDefaults] at hok hshows
  rcases AnySource.setDefaults_cases source (Labeler.restyled source s) with ⟨-, hset⟩ | ⟨e, -, hset⟩
  · rw [hshows, hset]
  · cases hok.symm.trans (congrArg Prod.fst hset)

/-- A labeler does the same if it is given a style and if it is given its defaults with that style, and so does a
list of candidates, whether by itself or in a labeler. If the style is accepted, the defaults are as before in
all else, and so is the rest of the source. In a list the candidates show it where they set no style of
their own, and are as before in all else. -/
theorem restyling_ways_agree (ops : List Operation) (name : String) (s : Style) :
    let w := (({} : Workshop AnySource).run ops).2
    (w.setStyle? name s = (w.source? name).bind fun source => w.setPlacement? name (Labeler.restyled source s)) ∧
    (∀ source w', w.source? name = some source → w.setStyle? name s = some (.ok (), w') →
      ∃ after, w'.source? name = some after ∧ after = source.withDefaults (CandidateSource.defaults after) ∧
        CandidateSource.defaults after = { CandidateSource.defaults source with style := s }) ∧
    ∀ (o : Candidates.Origin) (c₀ : Candidates) (es : List Candidates.Edit), o.list? = some c₀ →
      let c := (Candidates.run c₀ es).2
      let edited := (Candidates.Edit.setStyle s).apply c
      edited = (Candidates.Edit.setDefaults { c.defaults with style := s }).apply c ∧
      (w.source? name = some (.candidates c) →
        ∃ w', w.setStyle? name s = some (edited.1, w') ∧ w'.source? name = some (.candidates edited.2)) ∧
      (edited.1 = .ok () → Candidates.Restyled s c edited.2) := by
  intro w
  obtain ⟨-, hmirrors⟩ := mirrors_empty.run ops
  refine ⟨hmirrors.setStyle_eq_setPlacement name s, fun source w' hs hr => ?_, fun o c₀ es ho => ?_⟩
  · have hdefaults := AnySource.defaults_withDefaults source (Labeler.restyled source s)
    exact ⟨_, hmirrors.setStyle_accepted hs hr, by rw [hdefaults], hdefaults⟩
  · intro c edited
    have hc : c.Valid := Candidates.run_valid (Candidates.list?_eq_some ho).2 es
    refine ⟨Candidates.Edit.apply_setStyle hc s, fun hs => ?_, Candidates.restyled_of_accepted⟩
    obtain ⟨w', hrequest, hshows⟩ := hmirrors.setStyle_shows hs s
    rw [Labeler.editStyle_candidates hc] at hrequest hshows
    exact ⟨w', hrequest, hshows⟩

/-- A candidate with a text size of its own keeps it and shows the new opacity. A negative spacing was refused before
and has left nothing behind, and another labeler shares the list. -/
theorem restyling_ways_agree_smallText :
    let patch : Placement.Patch := .withTextSize ∅ 8
    let c : Candidates := ⟨{}, [patch]⟩
    let s : Style := { textSize := 14, opacity := 0.5 }
    let w := (({} : Workshop AnySource).run [.create "road" (.ofSource (.candidates c)), .share "copy" "road"]).2
    (Candidates.Origin.ofPatches {} [patch]).list? = some c ∧
    (Candidates.run c [.push { labelSpacing := some (-1) }]).2 = c ∧
    ∃ w' d q, w.setStyle? "road" s = some (.ok (), w') ∧ w'.source? "road" = some (.candidates d) ∧
      (Candidates.Edit.setDefaults { c.defaults with style := s }).apply c = (.ok (), d) ∧
      d.resolve? 0 = some q ∧ q.style.textSize = 8 ∧ q.style.opacity = 0.5 := by
  intro patch c s w
  have hstyle : s.validate = .ok () :=
    Style.validate_eq_ok_iff.2 (show ({ textSize := 14, opacity := 0.5 } : Style).Valid by decide)
  have hpatch : (Placement.Patch.withTextSize ∅ 8).Valid := by decide
  have hc : c.Valid := ⟨Placement.valid_default, List.forall_mem_singleton.2 hpatch⟩
  have ho : (Candidates.Origin.ofPatches {} [patch]).list? = some c :=
    toOption_eq_some_iff.2 (Candidates.ofPatches_eq_ok_iff.2 ⟨hc, rfl⟩)
  have hrefused : ((Candidates.Edit.push { labelSpacing := some (-1) }).apply c).1 =
      .error (.property .labelSpacing (.negative (-1))) := rfl
  have hrun : (Candidates.run c [.push { labelSpacing := some (-1) }]).2 = c :=
    Candidates.Edit.apply_refused hrefused
  have hok : ((Candidates.Edit.setStyle s).apply c).1 = .ok () := by
    rcases Candidates.Edit.apply_cases c (.setStyle s) with ⟨-, hedit⟩ | ⟨e, he, -⟩
    · rw [hedit]
    · rw [Candidates.Edit.check, hstyle] at he
      cases he
  obtain ⟨-, -, hlist⟩ :=
    restyling_ways_agree [.create "road" (.ofSource (.candidates c)), .share "copy" "road"] "road" s
  have hways := hlist _ c [.push { labelSpacing := some (-1) }] ho
  rw [hrun] at hways
  obtain ⟨hsame, hlabeler, hrestyled⟩ := hways
  obtain ⟨w', hrequest, hshows⟩ := hlabeler rfl
  rw [hok] at hrequest
  obtain ⟨p, q, hp, hq, -, hfields⟩ := (hrestyled hok).resolved 0 patch rfl
  cases hp
  exact ⟨ho, hrun, w', _, q, hrequest, hshows, hsame.symm.trans (Prod.ext hok rfl), hq,
    (hfields .textSize).2 (Option.some_ne_none _), (hfields .opacity).1 rfl⟩

end Workshop

end MapLabel
