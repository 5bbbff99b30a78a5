import MapLabel.Config.Placement
import MapLabel.Proofs.Placement.Validity
/-!
# The history of a list of candidates

A list of candidates comes from one of a few origins and is then edited, any number of times. An edit
that is refused leaves the list as it was. `history_of_origin`: whatever the edits were, the list is
valid and so is every placement that it resolves to, and its parts are the ones last accepted.
-/

namespace MapLabel.Candidates

/-! ## Validity of the whole list -/

/-- The defaults and every candidate are valid. -/
def Valid (c : Candidates) : Prop := c.defaults.Valid ∧ ∀ a ∈ c.patches, a.Valid

theorem forM_validate_eq_ok_iff {patches : List Placement.Patch} :
    patches.forM Placement.Patch.validate = .ok () ↔ ∀ a ∈ patches, a.Valid := by
  simp only [forM_eq_ok_iff, Placement.Patch.validate_eq_ok_iff]

theorem validate_eq_ok_iff {c : Candidates} : c.validate = .ok () ↔ c.Valid := by
  rw [validate, check_bind_eq_ok_iff, Placement.validate_eq_ok_iff, forM_validate_eq_ok_iff, Valid]

/-- A valid list resolves each of its candidates to a valid placement. -/
theorem resolve?_valid {c : Candidates} (h : c.Valid) {i : Nat} (hi : i < c.size) :
    ∃ p, c.resolve? i = some p ∧ p.validate = .ok () := by
  refine ⟨c.patches[i].applyTo c.defaults, by simp [resolve?, List.getElem?_eq_getElem hi], ?_⟩
  rw [Placement.validate_eq_ok_iff, Placement.Patch.valid_applyTo_iff h.1]
  exact h.2 _ (List.getElem_mem hi)

theorem resolve?_eq_none {c : Candidates} {i : Nat} (hi : c.size ≤ i) : c.resolve? i = none := by
  simp [resolve?, List.getElem?_eq_none hi]

/-! ## Origins -/

/-- The ways to obtain a list of candidates. -/
inductive Origin where
  | default
  | defaultSingle
  | ofDefaults (p : Placement)
  | single (p : Placement)
  | ofPatches (p : Placement) (patches : List Placement.Patch)
  /-- A value of a style file. -/
  | file (v : Config.Value)

/-- The list obtained, unless it is refused. -/
def Origin.list? : Origin → Option Candidates
  | default => some .default
  | defaultSingle => some .defaultSingle
  | ofDefaults p => (Candidates.ofDefaults p).toOption
  | single p => (Candidates.single p).toOption
  | ofPatches p patches => (Candidates.ofPatches p patches).toOption
  | file v => (Config.candidates.read v).toOption

/-- The defaults and candidates asked for, not checked. -/
def Origin.given? : Origin → Option Candidates
  | default => some ⟨{}, []⟩
  | defaultSingle => some ⟨{}, [∅]⟩
  | ofDefaults p => some ⟨p, []⟩
  | single p => some ⟨p, [∅]⟩
  | ofPatches p patches => some ⟨p, patches⟩
  | file v => (Config.rawCandidates.read v).toOption

theorem ofDefaults_eq_ok_iff {p : Placement} {c : Candidates} :
    ofDefaults p = .ok c ↔ p.Valid ∧ ⟨p, []⟩ = c := by
  rw [ofDefaults, check_bind_eq_ok_iff, Placement.validate_eq_ok_iff, pure_eq_ok_iff]

theorem single_eq_ok_iff {p : Placement} {c : Candidates} : single p = .ok c ↔ p.Valid ∧ ⟨p, [∅]⟩ = c := by
  rw [single, check_bind_eq_ok_iff, Placement.validate_eq_ok_iff, pure_eq_ok_iff]

theorem push_cases (c : Candidates) (a : Placement.Patch) :
    (a.validate = .ok () ∧ c.push a = (.ok (), { c with patches := c.patches ++ [a] })) ∨
    ∃ err, a.validate = .error err ∧ c.push a = (.error err, c) :=
  editing_cases c a.validate fun c => { c with patches := c.patches ++ [a] }

/-- Candidates pushed one by one are all there in the end, unless one is refused. -/
theorem foldlM_push_eq (c : Candidates) (patches : List Placement.Patch) :
    patches.foldlM (fun c a => edited (c.push a)) c =
      (patches.forM Placement.Patch.validate).map fun _ => { c with patches := c.patches ++ patches } := by
  induction patches generalizing c with
  | nil => simp [pure, Except.pure, Except.map]
  | cons a patches ih =>
    rw [List.foldlM_cons, List.forM]
    rcases push_cases c a with ⟨ha, hpush⟩ | ⟨err, ha, hpush⟩
    · rw [ha, hpush]
      refine (ih _).trans ?_
      rw [List.append_assoc]
      rfl
    · rw [ha, hpush]
      rfl

/-- Checking the parts while the list grows is checking the list when it is there. -/
theorem ofPatches_eq (p : Placement) (patches : List Placement.Patch) :
    ofPatches p patches = (validate ⟨p, patches⟩).map fun _ => ⟨p, patches⟩ := by
  rw [ofPatches, ofDefaults, validate]
  cases p.validate with
  | error => rfl
  | ok => simp [bind, Except.bind, pure, Except.pure, foldlM_push_eq]

theorem ofPatches_eq_ok_iff {p : Placement} {patches : List Placement.Patch} {c : Candidates} :
    ofPatches p patches = .ok c ↔ Valid ⟨p, patches⟩ ∧ ⟨p, patches⟩ = c := by
  rw [ofPatches_eq, ← validate_eq_ok_iff]
  cases validate ⟨p, patches⟩ <;> simp [Except.map]

theorem valid_single {p : Placement} (hp : p.Valid) : Valid ⟨p, [∅]⟩ := by
  refine ⟨hp, fun a ha => ?_⟩
  rw [List.mem_singleton.1 ha]
  exact Placement.Patch.valid_empty

/-- A list that is not refused is the one asked for, and it is valid. -/
theorem list?_eq_some {o : Origin} {c : Candidates} (h : o.list? = some c) : o.given? = some c ∧ c.Valid := by
  cases o with
  | default =>
    cases h
    exact ⟨rfl, Placement.valid_default, by simp [Candidates.default]⟩
  | defaultSingle =>
    cases h
    exact ⟨rfl, valid_single Placement.valid_default⟩
  | ofDefaults p =>
    obtain ⟨hp, rfl⟩ := ofDefaults_eq_ok_iff.1 (toOption_eq_some_iff.1 h)
    exact ⟨rfl, hp, by simp⟩
  | single p =>
    obtain ⟨hp, rfl⟩ := single_eq_ok_iff.1 (toOption_eq_some_iff.1 h)
    exact ⟨rfl, valid_single hp⟩
  | ofPatches p patches =>
    obtain ⟨hv, rfl⟩ := ofPatches_eq_ok_iff.1 (toOption_eq_some_iff.1 h)
    exact ⟨rfl, hv⟩
  | file v =>
    obtain ⟨raw, hraw, hchecked⟩ := bind_eq_ok_iff.1 (toOption_eq_some_iff.1 h)
    obtain ⟨hv, rfl⟩ := ofPatches_eq_ok_iff.1 (mapError_eq_ok_iff.1 hchecked)
    exact ⟨toOption_eq_some_iff.2 hraw, hv⟩

/-! ## Edits -/

namespace Edit

/-- The check of the new part. -/
def check : Edit → Except PlacementError Unit
  | push a => a.validate
  | setDefaults p => p.validate
  | setStyle s => s.validate.mapError .style

/-- What an accepted edit makes of the list. -/
def effect (c : Candidates) : Edit → Candidates
  | push a => { c with patches := c.patches ++ [a] }
  | setDefaults p => { c with defaults := p }
  | setStyle s => { c with defaults := { c.defaults with style := s } }

/-- All that an edit can do: it has its effect if the check passes, and else it does nothing. -/
theorem apply_cases (c : Candidates) (e : Edit) :
    (e.check = .ok () ∧ e.apply c = (.ok (), e.effect c)) ∨
    ∃ err, e.check = .error err ∧ e.apply c = (.error err, c) := by
  cases e with
  | push a => exact push_cases c a
  | setDefaults p => exact editing_cases c p.validate fun c => { c with defaults := p }
  | setStyle s =>
    exact editing_cases c (s.validate.mapError PlacementError.style) fun c =>
      { c with defaults := { c.defaults with style := s } }

theorem effect_valid {c : Candidates} {e : Edit} (he : e.check = .ok ()) (hc : c.Valid) : (e.effect c).Valid := by
  cases e with
  | push a =>
    refine ⟨hc.1, fun b hb => ?_⟩
    rcases List.mem_append.1 hb with hb | hb
    · exact hc.2 b hb
    · rw [List.mem_singleton.1 hb]
      exact Placement.Patch.validate_eq_ok_iff.1 he
  | setDefaults p => exact ⟨Placement.validate_eq_ok_iff.1 he, hc.2⟩
  | setStyle s =>
    have hs := Style.validate_eq_ok_iff.1 (mapError_eq_ok_iff.1 he)
    exact ⟨Placement.valid_withStyle hc.1 hs, hc.2⟩

theorem apply_valid {c : Candidates} (hc : c.Valid) (e : Edit) : (e.apply c).2.Valid := by
  rcases apply_cases c e with ⟨he, ha⟩ | ⟨err, -, ha⟩
  · rw [ha]
    exact effect_valid he hc
  · rwa [ha]

theorem apply_refused {c : Candidates} {e : Edit} {err : PlacementError} (h : (e.apply c).1 = .error err) :
    (e.apply c).2 = c := by
  rcases apply_cases c e with ⟨-, ha⟩ | ⟨_, -, ha⟩
  · rw [ha] at h
    cases h
  · rw [ha]

end Edit

/-! ## Runs of edits -/

/-- The edits that were not refused. -/
def accepted (log : Log) : List Edit :=
  log.filterMap fun (e, outcome) =>
    match outcome with
    | .ok _ => some e
    | .error _ => none

/-- The candidates that the edits push. -/
def pushed (es : List Edit) : List Placement.Patch :=
  es.filterMap fun
    | .push a => some a
    | _ => none

/-- The last defaults that the edits set, or those from before. -/
def lastDefaults (before : Placement) (es : List Edit) : Placement :=
  (es.filterMap fun
    | .setDefaults p => some p
    | _ => none).getLastD before

/-- The last style that the edits set, alone or with the defaults, or the one from before. -/
def lastStyle (before : Style) (es : List Edit) : Style :=
  (es.filterMap fun
    | .setDefaults p => some p.style
    | .setStyle s => some s
    | .push _ => none).getLastD before

theorem run_valid {c : Candidates} (hc : c.Valid) (es : List Edit) : (run c es).2.Valid := by
  induction es generalizing c with
  | nil => exact hc
  | cons e es ih => exact ih (Edit.apply_valid hc e)

/-- Whether an edit is refused, and why, depends on its new part alone. -/
theorem run_log (c : Candidates) (es : List Edit) : (run c es).1 = es.map fun e => (e, e.check) := by
  induction es generalizing c with
  | nil => rfl
  | cons e es ih =>
    rw [run, List.map_cons, ih]
    rcases Edit.apply_cases c e with ⟨he, ha⟩ | ⟨err, he, ha⟩ <;> rw [he, ha]

/-- The refused edits might as well not have been made. -/
theorem run_eq_foldl_effect (c : Candidates) (es : List Edit) :
    (run c es).2 = (accepted (run c es).1).foldl Edit.effect c := by
  induction es generalizing c with
  | nil => rfl
  | cons e es ih =>
    simp only [run, accepted, List.filterMap_cons] at ih ⊢
    rcases Edit.apply_cases c e with ⟨-, ha⟩ | ⟨err, -, ha⟩
    · rw [ha]
      exact ih _
    · rw [ha]
      exact ih c

theorem foldl_effect_patches (c : Candidates) (es : List Edit) :
    (es.foldl Edit.effect c).patches = c.patches ++ pushed es := by
  induction es generalizing c with
  | nil => simp [pushed]
  | cons e es ih =>
    rw [List.foldl_cons, ih]
    cases e <;> simp [Edit.effect, pushed]

theorem lastDefaults_setDefaults (before p : Placement) (es : List Edit) :
    lastDefaults before (.setDefaults p :: es) = lastDefaults p es := List.getLastD_cons

theorem lastStyle_setDefaults (before : Style) (p : Placement) (es : List Edit) :
    lastStyle before (.setDefaults p :: es) = lastStyle p.style es := List.getLastD_cons

theorem lastStyle_setStyle (before s : Style) (es : List Edit) :
    lastStyle before (.setStyle s :: es) = lastStyle s es := List.getLastD_cons

/-- The style of the defaults from before does not show below a later style. -/
theorem lastDefaults_withStyle (before : Placement) (s t : Style) (es : List Edit) :
    { lastDefaults { before with style := s } es with style := t }
      = { lastDefaults before es with style := t } := by
  unfold lastDefaults
  cases es.filterMap _ with
  | nil => rfl
  | cons p ps => rw [List.getLastD_cons, List.getLastD_cons]

theorem foldl_effect_defaults (c : Candidates) (es : List Edit) :
    (es.foldl Edit.effect c).defaults
      = { lastDefaults c.defaults es with style := lastStyle c.defaults.style es } := by
  induction es generalizing c with
  | nil => rfl
  | cons e es ih =>
    rw [List.foldl_cons, ih]
    cases e with
    | push a => rfl
    | setDefaults p => rw [lastDefaults_setDefaults, lastStyle_setDefaults, Edit.effect]
    | setStyle s => rw [lastStyle_setStyle, Edit.effect, lastDefaults_withStyle]; rfl

/-- After any edits, whatever became of them, a list is valid and resolves to valid placements. It holds
the candidates that it was given and those pushed since, and the defaults and the style that were last
accepted. A further edit that is refused would leave it as it is. -/
theorem history_of_origin {o : Origin} {c d : Candidates} {es : List Edit} {log : Log}
    (ho : o.list? = some c) (hrun : run c es = (log, d)) :
    d.validate = .ok () ∧
    (∀ i < d.size, ∃ p, d.resolve? i = some p ∧ p.validate = .ok ()) ∧
    (∀ i, d.size ≤ i → d.resolve? i = none) ∧
    (∃ given, o.given? = some given ∧
      d.patches = given.patches ++ pushed (accepted log) ∧
      d.defaults = { lastDefaults given.defaults (accepted log) with
        style := lastStyle given.defaults.style (accepted log) }) ∧
    log = es.map (fun e => (e, e.check)) ∧
    ∀ (e : Edit) (err : PlacementError), (e.apply d).1 = .error err → (e.apply d).2 = d := by
  obtain ⟨hgiven, hc⟩ := list?_eq_some ho
  obtain ⟨rfl, rfl⟩ := Prod.mk.inj hrun
  have hd : (run c es).2.Valid := run_valid hc es
  refine ⟨validate_eq_ok_iff.2 hd, fun i hi => resolve?_valid hd hi, fun i hi => resolve?_eq_none hi,
    ⟨c, hgiven, ?_, ?_⟩, run_log c es, fun e err he => Edit.apply_refused he⟩
  · rw [run_eq_foldl_effect, foldl_effect_patches]
  · rw [run_eq_foldl_effect, foldl_effect_defaults]

theorem history_of_single :
    (Origin.single {}).list? = some ⟨{}, [∅]⟩ ∧
    ∃ d, (run ⟨{}, [∅]⟩ [.setStyle { opacity := 3 }, .push (.withTextSize ∅ 8)]).2 = d ∧
      d.size = 2 ∧ d.validate = .ok () ∧ ∃ p, d.resolve? 1 = some p ∧ p.validate = .ok () := by
  have ho : (Origin.single {}).list? = some ⟨{}, [∅]⟩ :=
    toOption_eq_some_iff.2 (single_eq_ok_iff.2 ⟨Placement.valid_default, rfl⟩)
  refine ⟨ho, _, rfl, ?_⟩
  generalize hrun : run ⟨{}, [∅]⟩ [.setStyle { opacity := 3 }, .push (.withTextSize ∅ 8)] = r
  obtain ⟨hvalid, hresolve, -, -, -, -⟩ := history_of_origin ho hrun
  have hsize : r.2.size = 2 := by
    rw [← hrun]
    rfl
  exact ⟨hsize, hvalid, hresolve 1 (by rw [hsize]; decide)⟩

end MapLabel.Candidates
