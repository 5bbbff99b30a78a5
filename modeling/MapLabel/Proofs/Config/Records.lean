import MapLabel.Config.Placement
import MapLabel.Proofs.Placement.Validity
/-!
# What reading a record leaves alone

A record is read field by field over a starting value. What no field touches is as it was at the start,
whichever fields are there and whatever they hold. The lists of candidates in style files are read this
way, so nothing that is read from a style file has a content or an orientation (`placement_bare`,
`placementPatch_bare`, `rawCandidates_bare`).
-/

namespace MapLabel.Config

variable {α β : Type} {P : α → Prop} {Q : Value → Prop}

/-- The values of which the value is directly made up. -/
def Value.children : Value → List Value
  | .list items => items
  | .record entries => entries.map Prod.snd
  | _ => []

/-! ## Fields -/

namespace Field

/-- Reading the field keeps a property `P` of the record, if it is read from a value with the property `Q`. -/
def Preserves (Q : Value → Prop) (P : α → Prop) (f : Field α) : Prop :=
  ∀ v a b, Q v → P a → f.read v a = .ok b → P b

@[simp] theorem of_key {key : String} {c : Codec β} {get : α → β} {set : β → α → α} :
    (Field.of key c get set).key = key := rfl

@[simp] theorem of_write {key : String} {c : Codec β} {get : α → β} {set : β → α → α} {a : α} :
    (Field.of key c get set).write a = c.write (get a) := rfl

theorem read_of_eq_ok_iff {key : String} {c : Codec β} {get : α → β} {set : β → α → α} {v : Value} {a b : α} :
    (Field.of key c get set).read v a = .ok b ↔ ∃ x, c.read v = .ok x ∧ set x a = b := by
  simp only [Field.of, bind_eq_ok_iff, pure_eq_ok_iff]

/-- A field keeps what its setter keeps for every value that its codec can read. -/
theorem preserves_of {key : String} {c : Codec β} {get : α → β} {set : β → α → α}
    (h : ∀ v x a, Q v → c.read v = .ok x → P a → P (set x a)) : (Field.of key c get set).Preserves Q P := by
  intro v a b hv ha hb
  obtain ⟨x, hx, rfl⟩ := read_of_eq_ok_iff.1 hb
  exact h v x a hv hx ha

end Field

/-! ## Codecs -/

namespace Codec

variable {fields : List (Field α)}

theorem readEntries_preserves (hfields : ∀ f ∈ fields, f.Preserves Q P) {entries : List (String × Value)} {a b : α}
    (hentries : ∀ v ∈ entries.map Prod.snd, Q v) (ha : P a) (h : readEntries fields a entries = .ok b) : P b := by
  induction entries generalizing a with
  | nil =>
    cases h
    exact ha
  | cons entry entries ih =>
    obtain ⟨key, v⟩ := entry
    obtain ⟨hv, hentries⟩ := List.forall_mem_cons.1 hentries
    rw [readEntries, List.foldlM_cons, bind_eq_ok_iff] at h
    obtain ⟨a', hfirst, hrest⟩ := h
    refine ih hentries ?_ hrest
    -- An entry belongs to a field, or its key is unknown and it is passed over.
    cases hf : fields.find? fun f => f.key == key with
    | some f =>
      simp only [hf] at hfirst
      exact hfields f (List.mem_of_find?_eq_some hf) v a a' hv ha hfirst
    | none =>
      simp only [hf] at hfirst
      cases hfirst
      exact ha

theorem readItems_preserves (hfields : ∀ f ∈ fields, f.Preserves Q P) {items : List Value} {a b : α}
    (hitems : ∀ v ∈ items, Q v) (ha : P a) (h : readItems fields a items = .ok b) : P b := by
  induction fields, a, items using readItems.induct with
  | case1 =>
    rw [readItems] at h
    cases h
    exact ha
  | case2 => cases h
  | case3 f fields a v items ih =>
    rw [readItems, bind_eq_ok_iff] at h
    obtain ⟨a', hfirst, hrest⟩ := h
    obtain ⟨hv, hitems⟩ := List.forall_mem_cons.1 hitems
    have hhead := hfields f List.mem_cons_self v a a' hv ha hfirst
    exact ih a' (fun g hg => hfields g (List.mem_cons_of_mem _ hg)) hitems hhead hrest

/-- Whatever is read as a record has the properties of the start that every field keeps. -/
theorem record_preserves (hfields : ∀ f ∈ fields, f.Preserves Q P) {start a : α} (hstart : P start) {v : Value}
    (hv : ∀ w ∈ v.children, Q w) (h : (record fields start).read v = .ok a) : P a := by
  simp only [record] at h
  split at h
  · exact readEntries_preserves hfields hv hstart h
  · exact readItems_preserves hfields hv hstart h
  · cases h

theorem mapM_read {c : Codec α} {items : List Value} {as : List α} (h : items.mapM c.read = .ok as) :
    ∀ a ∈ as, ∃ v ∈ items, c.read v = .ok a := by
  induction items generalizing as with
  | nil =>
    cases h
    simp
  | cons v items ih =>
    simp only [List.mapM_cons, bind_eq_ok_iff, pure_eq_ok_iff] at h
    obtain ⟨a, ha, as', has, rfl⟩ := h
    refine List.forall_mem_cons.2 ⟨⟨v, List.mem_cons_self, ha⟩, fun b hb => ?_⟩
    obtain ⟨w, hw, hread⟩ := ih has b hb
    exact ⟨w, List.mem_cons_of_mem v hw, hread⟩

/-- Every element of a list that was read was read from a value of its own. -/
theorem list_read {c : Codec α} {v : Value} {as : List α} (h : (list c).read v = .ok as) :
    ∀ a ∈ as, ∃ w ∈ v.children, c.read w = .ok a := by
  simp only [list] at h
  split at h
  · exact mapM_read h
  · cases h

end Codec

/-! ## Placements and candidates -/

theorem placement_bare {v : Value} {p : Placement} (h : placement.read v = .ok p) :
    p.content = none ∧ p.orientation = none := by
  refine Codec.record_preserves (Q := fun _ => True) (P := fun p => p.content = none ∧ p.orientation = none) ?_
    ⟨rfl, rfl⟩ (fun _ _ => trivial) h
  simp only [placementFields, List.forall_mem_cons]
  repeat refine ⟨Field.preserves_of fun _ _ _ _ _ hp => hp, ?_⟩
  exact List.forall_mem_nil _

theorem placementPatch_bare {v : Value} {a : Placement.Patch} (h : placementPatch.read v = .ok a) :
    a.content = none ∧ a.orientation = none := by
  refine Codec.record_preserves (Q := fun _ => True) (P := fun a => a.content = none ∧ a.orientation = none) ?_
    ⟨rfl, rfl⟩ (fun _ _ => trivial) h
  simp only [placementPatchFields, List.forall_mem_cons]
  repeat refine ⟨Field.preserves_of fun _ _ _ _ _ ha => ha, ?_⟩
  exact List.forall_mem_nil _

/-- Neither the defaults nor the candidates of a style file have a content or an orientation. -/
theorem rawCandidates_bare {v : Value} {c : Candidates} (h : rawCandidates.read v = .ok c) :
    (c.defaults.content = none ∧ c.defaults.orientation = none) ∧
    ∀ a ∈ c.patches, a.content = none ∧ a.orientation = none := by
  refine Codec.record_preserves (Q := fun _ => True) (P := fun c : Candidates =>
    (c.defaults.content = none ∧ c.defaults.orientation = none) ∧
    ∀ a ∈ c.patches, a.content = none ∧ a.orientation = none) ?_
    ⟨⟨rfl, rfl⟩, by simp [Candidates.default]⟩ (fun _ _ => trivial) h
  simp only [List.forall_mem_cons]
  refine ⟨Field.preserves_of ?defaults, Field.preserves_of ?alternatives, by simp⟩
  case defaults => exact fun _ _ _ _ hread hc => ⟨placement_bare hread, hc.2⟩
  case alternatives =>
    refine fun _ _ _ _ hread hc => ⟨hc.1, fun a ha => ?_⟩
    obtain ⟨w, -, hw⟩ := Codec.list_read hread a ha
    exact placementPatch_bare hw

end MapLabel.Config
