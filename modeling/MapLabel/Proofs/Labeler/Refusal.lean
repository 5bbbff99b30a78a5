import MapLabel.Proofs.Labeler.Sharing
/-!
# What a refused edit leaves behind

A source may be another one after it has refused new defaults. A labeler that has its source to itself edits
the source in place and shows what is left of it. One that shares its source edits a copy, and throws the
copy away if the edit is refused. `refused_edit_unseen_iff`: refused edits are not seen exactly of sources
that look the same after a refusal as before, and for exactly these does it not matter which of the two
happens.
-/

namespace MapLabel

/-- Two sources show the same defaults and the same candidates. -/
structure LooksLike {σ : Type} [CandidateSource σ] (s t : σ) : Prop where
  defaults : CandidateSource.defaults s = CandidateSource.defaults t
  candidates : ∀ i, CandidateSource.candidate? s i = CandidateSource.candidate? t i

theorem LooksLike.refl {σ : Type} [CandidateSource σ] (s : σ) : LooksLike s s := ⟨rfl, fun _ => rfl⟩

theorem LooksLike.symm {σ : Type} [CandidateSource σ] {s t : σ} (h : LooksLike s t) : LooksLike t s :=
  ⟨h.defaults.symm, fun i => (h.candidates i).symm⟩

theorem LooksLike.trans {σ : Type} [CandidateSource σ] {s t u : σ} (h : LooksLike s t) (h' : LooksLike t u) :
    LooksLike s u :=
  ⟨h.defaults.trans h'.defaults, fun i => (h.candidates i).trans (h'.candidates i)⟩

/-- Whoever looks at a source cannot tell that it has refused new defaults. -/
def LooksSteady (σ : Type) [CandidateSource σ] : Prop :=
  ∀ (source : σ) (p : Placement) (e : PlacementError), (CandidateSource.setDefaults source p).1 = .error e →
    LooksLike (CandidateSource.setDefaults source p).2 source

theorem looksSteady_of_steady (σ : Type) [CandidateSource σ] [SteadySource σ] : LooksSteady σ := by
  intro source p e he
  rw [SteadySource.setDefaults_refused he]
  exact .refl source

/-! ## The two ways to edit -/

namespace Request

variable {σ : Type} [CandidateSource σ]

/-- The outcome of the request if the source itself is edited, and what becomes of the source. -/
def inPlace (source : σ) : Request → Except PlacementError Unit × σ
  | placement p => CandidateSource.setDefaults source p
  | style s =>
    match s.validate with
    | .error e => (.error (.style e), source)
    | .ok _ => CandidateSource.setDefaults source (Labeler.restyled source s)

/-- The same if a copy of the source is edited, which takes its place unless the request is refused. -/
def onCopy (source : σ) : Request → Except PlacementError Unit × σ
  | placement p => Labeler.edit source p
  | style s => Labeler.editStyle source s

end Request

theorem Labeler.edit_cases {σ : Type} [CandidateSource σ] (source : σ) (p : Placement) :
    (Labeler.edit source p = CandidateSource.setDefaults source p ∧ (Labeler.edit source p).1 = .ok ()) ∨
    ∃ e, (CandidateSource.setDefaults source p).1 = .error e ∧ Labeler.edit source p = (.error e, source) := by
  unfold Labeler.edit
  rcases CandidateSource.setDefaults source p with ⟨e | _, left⟩
  · exact .inr ⟨e, rfl, rfl⟩
  · exact .inl ⟨rfl, rfl⟩

/-- All that tells the two ways apart is what is left after a refusal. -/
theorem Request.cases {σ : Type} [CandidateSource σ] (source : σ) (r : Request) :
    (r.onCopy source = r.inPlace source ∧ (r.inPlace source).1 = .ok ()) ∨
    ∃ e, (r.inPlace source).1 = .error e ∧ r.onCopy source = (.error e, source) := by
  cases r with
  | placement p =>
    rcases Labeler.edit_cases source p with ⟨heq, hok⟩ | ⟨e, he, hcopy⟩
    · exact .inl ⟨heq, (congrArg Prod.fst heq).symm.trans hok⟩
    · exact .inr ⟨e, he, hcopy⟩
  | style s =>
    dsimp only [inPlace, onCopy, Labeler.editStyle]
    cases s.validate with
    | error e => exact .inr ⟨_, rfl, rfl⟩
    | ok =>
      rcases Labeler.edit_cases source (Labeler.restyled source s) with ⟨heq, hok⟩ | ⟨e, he, hcopy⟩
      · exact .inl ⟨heq, (congrArg Prod.fst heq).symm.trans hok⟩
      · exact .inr ⟨e, he, hcopy⟩

namespace Workshop

variable {σ : Type} {w w' : Workshop σ} {name : String} {source : σ}

/-- Each name is given once, each pointer leads to a source, and each cell counts its owners. -/
def Sound (w : Workshop σ) : Prop := ∃ v, w.Mirrors v

/-- Another labeler or a handle has the source of the labeler too. -/
def Shared (w : Workshop σ) (name : String) : Prop :=
  ∃ a, w.address? name = some a ∧ a ∈ w.pointersBeside name

/-- Who creates a labeler has its source to itself. -/
theorem created_sole (source : σ) :
    let w := ({} : Workshop σ).create "road" source
    w.Sound ∧ w.source? "road" = some source ∧ ¬ w.Shared "road" := by
  refine ⟨⟨_, mirrors_empty.create "road" source⟩, rfl, ?_⟩
  rintro ⟨a, -, ha⟩
  cases ha

/-- With a handle on it, the source is shared. -/
theorem held_shared (source : σ) :
    ∃ w, (({} : Workshop σ).create "road" source).hold? "road" = some w ∧
      w.Sound ∧ w.source? "road" = some source ∧ w.Shared "road" := by
  have hmirrors := mirrors_empty.create "road" source
  exact ⟨_, rfl, ⟨_, hmirrors.hold (a := 0) rfl⟩, rfl, 0, rfl, List.mem_singleton_self 0⟩

variable [CandidateSource σ]

/-- The outcome of a request is that of an edit of the source itself, shared or not. The labeler shows what is left
of the source, or of the copy if somebody else has the source too. -/
theorem Sound.request_cases (hw : w.Sound) (hs : w.source? name = some source) (r : Request) :
    ∃ w' after, w.request? name r = some ((r.inPlace source).1, w') ∧ w'.source? name = some after ∧
      (¬ w.Shared name → after = (r.inPlace source).2) ∧ (w.Shared name → after = (r.onCopy source).2) := by
  obtain ⟨v, hv⟩ := hw
  obtain ⟨a, ha, hsource⟩ := Option.bind_eq_some_iff.1 hs
  have hshared : w.Shared name ↔ a ∈ w.pointersBeside name := by simp [Shared, ha]
  -- Either kind of request comes down to new defaults, unless the style alone is refused.
  have hplacement : ∀ p, ∃ w' after, w.setPlacement? name p = some ((CandidateSource.setDefaults source p).1, w') ∧
      w'.source? name = some after ∧ (¬ w.Shared name → after = (CandidateSource.setDefaults source p).2) ∧
      (w.Shared name → after = (Labeler.edit source p).2) := by
    intro p
    obtain ⟨w', after, hrequest, hmirrors, hsole, hother⟩ := hv.setPlacement_cases ha hsource p
    rw [hshared]
    exact ⟨w', after, hrequest, hv.source?_of_replace hs hmirrors, hsole, hother⟩
  cases r with
  | placement p => exact hplacement p
  | style s =>
    dsimp only [request?, setStyle?, Request.inPlace, Request.onCopy, Labeler.editStyle]
    rw [hs]
    cases s.validate with
    | error e => exact ⟨w, source, rfl, hs, fun _ => rfl, fun _ => rfl⟩
    | ok => exact hplacement _

/-- The same, read off a request that was made. -/
theorem Sound.request_leaves {outcome : Except PlacementError Unit} {after : σ} {r : Request} (hw : w.Sound)
    (hs : w.source? name = some source) (hr : w.request? name r = some (outcome, w'))
    (hafter : w'.source? name = some after) :
    (r.inPlace source).1 = outcome ∧ (¬ w.Shared name → after = (r.inPlace source).2) ∧
      (w.Shared name → after = (r.onCopy source).2) := by
  obtain ⟨u, left, hrequest, hleft, hsole, hshared⟩ := hw.request_cases hs r
  obtain ⟨houtcome, rfl⟩ := Prod.mk.inj (Option.some.inj (hrequest.symm.trans hr))
  obtain rfl : left = after := Option.some.inj (hleft.symm.trans hafter)
  exact ⟨houtcome, hsole, hshared⟩

end Workshop

/-! ## When refused edits are not seen -/

/-- After a refused request a labeler shows what it showed before. -/
def RefusalsUnseen (σ : Type) [CandidateSource σ] : Prop :=
  ∀ (w w' : Workshop σ) (name : String) (source : σ) (r : Request) (e : PlacementError), w.Sound →
    w.source? name = some source → w.request? name r = some (.error e, w') →
    ∃ after, w'.source? name = some after ∧ LooksLike after source

/-- A request goes the same and leaves the same to be seen, whoever else has the source. -/
def WaysAgree (σ : Type) [CandidateSource σ] : Prop :=
  ∀ (w u : Workshop σ) (name : String) (source : σ) (r : Request), w.Sound → u.Sound →
    w.source? name = some source → u.source? name = some source →
    ∃ outcome w' u' after after', w.request? name r = some (outcome, w') ∧ u.request? name r = some (outcome, u') ∧
      w'.source? name = some after ∧ u'.source? name = some after' ∧ LooksLike after after'

section

variable {σ : Type} [CandidateSource σ]

/-- Of steady looks, what a request leaves in place looks like what it leaves of a copy. -/
theorem LooksSteady.inPlace_onCopy (h : LooksSteady σ) (source : σ) (r : Request) :
    LooksLike (r.inPlace source).2 (r.onCopy source).2 := by
  rcases r.cases source with ⟨heq, -⟩ | ⟨e, he, heq⟩
  · rw [heq]
    exact .refl _
  · rw [heq]
    cases r with
    | placement p => exact h source p e he
    | style s =>
      dsimp only [Request.inPlace] at he ⊢
      cases hs : s.validate with
      | error => exact .refl source
      | ok =>
        rw [hs] at he
        exact h source _ e he

theorem Request.onCopy_refused {source : σ} {r : Request} {e : PlacementError}
    (h : (r.inPlace source).1 = .error e) : (r.onCopy source).2 = source := by
  rcases r.cases source with ⟨-, hok⟩ | ⟨_, -, heq⟩
  · cases hok.symm.trans h
  · rw [heq]

namespace Workshop

/-- A refused request of a labeler that shares its source leaves the source as it is, steady or not. -/
theorem Sound.shared_refused {w w' : Workshop σ} {name : String} {source : σ} {r : Request} {e : PlacementError}
    (hw : w.Sound) (hs : w.source? name = some source) (hshared : w.Shared name)
    (hr : w.request? name r = some (.error e, w')) : w'.source? name = some source := by
  obtain ⟨u, after, hrequest, hafter, -, hcopy⟩ := hw.request_cases hs r
  obtain ⟨he, rfl⟩ := Prod.mk.inj (Option.some.inj (hrequest.symm.trans hr))
  rw [hafter, hcopy hshared, Request.onCopy_refused he]

/-- Of steady looks, a labeler shows after a request what an edit of a copy would leave. -/
theorem looksLike_onCopy {w : Workshop σ} {name : String} {source after : σ} {r : Request} (h : LooksSteady σ)
    (hsole : ¬ w.Shared name → after = (r.inPlace source).2)
    (hshared : w.Shared name → after = (r.onCopy source).2) : LooksLike after (r.onCopy source).2 := by
  by_cases hother : w.Shared name
  · rw [hshared hother]
    exact .refl _
  · rw [hsole hother]
    exact h.inPlace_onCopy source r

end Workshop

theorem refusalsUnseen_iff : RefusalsUnseen σ ↔ LooksSteady σ := by
  constructor
  · intro h source p e he
    obtain ⟨hw, hs, hsole⟩ := Workshop.created_sole source
    obtain ⟨w', -, hrequest, -⟩ := hw.request_cases hs (.placement p)
    have hrefused := hrequest.trans (congrArg (fun outcome => some (outcome, w')) he)
    obtain ⟨after, hafter, hlooks⟩ := h _ w' "road" source (.placement p) e hw hs hrefused
    obtain ⟨-, hplace, -⟩ := hw.request_leaves hs hrefused hafter
    rw [hplace hsole] at hlooks
    exact hlooks
  · intro h w w' name source r e hw hs hr
    obtain ⟨u, after, hrequest, hafter, hsole, hshared⟩ := hw.request_cases hs r
    obtain ⟨he, rfl⟩ := Prod.mk.inj (Option.some.inj (hrequest.symm.trans hr))
    have hlooks := Workshop.looksLike_onCopy h hsole hshared
    rw [Request.onCopy_refused he] at hlooks
    exact ⟨after, hafter, hlooks⟩

theorem waysAgree_iff : WaysAgree σ ↔ LooksSteady σ := by
  constructor
  · intro h source p e he
    obtain ⟨hw, hs, hsole⟩ := Workshop.created_sole source
    obtain ⟨u, -, hu, hs', hshared⟩ := Workshop.held_shared source
    obtain ⟨_, w', u', after, after', hr, hr', hafter, hafter', hlooks⟩ := h _ u "road" source (.placement p) hw hu hs hs'
    obtain ⟨-, hplace, -⟩ := hw.request_leaves hs hr hafter
    obtain ⟨-, -, hcopy⟩ := hu.request_leaves hs' hr' hafter'
    have hkept : (Request.onCopy source (.placement p)).2 = source := Request.onCopy_refused he
    rw [hplace hsole, hcopy hshared, hkept] at hlooks
    exact hlooks
  · intro h w u name source r hw hu hs hs'
    obtain ⟨w', after, hr, hafter, hsole, hshared⟩ := hw.request_cases hs r
    obtain ⟨u', after', hr', hafter', hsole', hshared'⟩ := hu.request_cases hs' r
    exact ⟨_, w', u', after, after', hr, hr', hafter, hafter',
      (Workshop.looksLike_onCopy h hsole hshared).trans (Workshop.looksLike_onCopy h hsole' hshared').symm⟩

end

/-- Refusals of the sources that a style file can name are not seen. -/
theorem anySource_refusals_unseen : RefusalsUnseen AnySource ∧ WaysAgree AnySource :=
  ⟨refusalsUnseen_iff.2 (looksSteady_of_steady AnySource), waysAgree_iff.2 (looksSteady_of_steady AnySource)⟩

/-- Labelers show after a refused request what they showed before exactly over sources that look the same after a
refusal as before, and exactly over these it does not matter who else has the source. If somebody else has
it, a refusal leaves any source as it is, and how a request goes does not depend on that. -/
theorem refused_edit_unseen_iff (σ : Type) [CandidateSource σ] :
    (RefusalsUnseen σ ↔ LooksSteady σ) ∧
    (WaysAgree σ ↔ LooksSteady σ) ∧
    (∀ (w w' : Workshop σ) (name : String) (source : σ) (r : Request) (e : PlacementError), w.Sound →
      w.source? name = some source → w.Shared name → w.request? name r = some (.error e, w') →
      w'.source? name = some source) ∧
    (∀ (w u : Workshop σ) (name : String) (source : σ) (r : Request), w.Sound → u.Sound →
      w.source? name = some source → u.source? name = some source →
      (w.request? name r).map Prod.fst = (u.request? name r).map Prod.fst) := by
  refine ⟨refusalsUnseen_iff, waysAgree_iff, ?_, ?_⟩
  · intro w w' name source r e hw hs hshared hr
    exact hw.shared_refused hs hshared hr
  · intro w u name source r hw hu hs hs'
    obtain ⟨w', -, hr, -⟩ := hw.request_cases hs r
    obtain ⟨u', -, hr', -⟩ := hu.request_cases hs' r
    rw [hr, hr']
    rfl

/-! ## A source that is not steady -/

/-- One candidate, which takes new defaults before it looks at them. -/
structure Hasty where
  defaults : Placement

instance : CandidateSource Hasty where
  defaults := Hasty.defaults
  setDefaults h p := editing h do
    set (⟨p⟩ : Hasty)
    p.validate
  candidate? h i := if i = 0 then some h.defaults else none

/-- A spacing below zero. -/
def Hasty.refusedPlacement : Placement := { labelSpacing := -5 }

theorem Hasty.refusedPlacement_validate :
    refusedPlacement.validate = .error (.property .labelSpacing (.negative (-5))) := by rfl

theorem Hasty.not_looksSteady : ¬ LooksSteady Hasty := by
  intro h
  have hdefaults : refusedPlacement = {} := (h ⟨{}⟩ refusedPlacement _ refusedPlacement_validate).defaults
  exact absurd (congrArg Placement.labelSpacing hdefaults) (by decide)

/-- A labeler that has such a source to itself shows a spacing that was refused. One that shares it does not. -/
theorem hasty_refusal_seen :
    let w := ({} : Workshop Hasty).create "road" ⟨{}⟩
    let p := Hasty.refusedPlacement
    let refused : Except PlacementError Unit := .error (.property .labelSpacing (.negative (-5)))
    (∃ w', w.setPlacement? "road" p = some (refused, w') ∧ w'.source? "road" = some ⟨p⟩) ∧
    (∃ u u', w.hold? "road" = some u ∧ u.setPlacement? "road" p = some (refused, u') ∧
      u'.source? "road" = some ⟨{}⟩) ∧
    ¬ RefusalsUnseen Hasty ∧ ¬ WaysAgree Hasty := by
  intro w p refused
  have hrefused : p.validate = refused := Hasty.refusedPlacement_validate
  refine ⟨?_, ?_, mt refusalsUnseen_iff.1 Hasty.not_looksSteady, mt waysAgree_iff.1 Hasty.not_looksSteady⟩
  · obtain ⟨hw, hs, hsole⟩ := Workshop.created_sole (⟨{}⟩ : Hasty)
    obtain ⟨w', after, hr, hafter, hplace, -⟩ := hw.request_cases hs (.placement p)
    rw [hplace hsole] at hafter
    exact ⟨w', hr.trans (congrArg (fun outcome => some (outcome, w')) hrefused), hafter⟩
  · obtain ⟨u, hu, hsound, hs, hshared⟩ := Workshop.held_shared (⟨{}⟩ : Hasty)
    obtain ⟨u', after, hr, hafter, -, hcopy⟩ := hsound.request_cases hs (.placement p)
    have hkept : (Request.onCopy (⟨{}⟩ : Hasty) (.placement p)).2 = ⟨{}⟩ := Request.onCopy_refused hrefused
    rw [hcopy hshared, hkept] at hafter
    exact ⟨u, u', hu, hr.trans (congrArg (fun outcome => some (outcome, u')) hrefused), hafter⟩

end MapLabel
