import MapLabel.Proofs.Config.Fields
/-!
# Full values as patches to the defaults

What a style file spells out as a style or a placement can be read as a patch too. `full_read_as_patch`: the
patch makes it out of the defaults, and one is valid if the other is. Entry by entry and item by item, the
reader of the patch does what the reader of the full value does, only that the key of the style is another one.
-/

namespace MapLabel.Config

/-! ## Another key -/

namespace Value

def keys : Value → List String
  | .record entries => entries.map Prod.fst
  | _ => []

/-- The key `new` in place of `old`. -/
def rename (old new key : String) : String := if key = old then new else key

/-- The record with the key `new` in place of `old`, its entries in the order of their keys again. -/
def renameKey (old new : String) : Value → Value
  | .record entries =>
    .record ((entries.map fun e => (rename old new e.1, e.2)).mergeSort fun e f => e.1 ≤ f.1)
  | v => v

theorem eq_of_rename_eq {old new key key' : String} (hkey : key ≠ new) (hkey' : key' ≠ new)
    (h : rename old new key = rename old new key') : key = key' := by
  unfold rename at h
  split at h <;> split at h
  · simp_all
  · exact absurd h.symm hkey'
  · exact absurd h hkey
  · exact h

end Value

variable {α β γ δ : Type} {R : α → β → Prop} {S : γ → δ → Prop}

/-! ## Simulation -/

/-- Whatever `c` reads, `d` reads as well, as something that `R` relates to it. -/
def Codec.SimulatedBy (c : Codec α) (R : α → β → Prop) (d : Codec β) : Prop :=
  ∀ v a, c.read v = .ok a → ∃ b, d.read v = .ok b ∧ R a b

/-- Read into related records, the two fields give related records. -/
def Field.SimulatedBy (f : Field α) (R : α → β → Prop) (g : Field β) : Prop :=
  ∀ v a b a', R a b → f.read v a = .ok a' → ∃ b', g.read v b = .ok b' ∧ R a' b'

/-- Each field of the one record is simulated by the field in the same place of the other one, whose key has the
name that `ρ` gives it. -/
def FieldsSimulatedBy (ρ : String → String) (R : α → β → Prop) : List (Field α) → List (Field β) → Prop :=
  List.Forall₂ fun f g => g.key = ρ f.key ∧ f.SimulatedBy R g

theorem Field.simulatedBy_of {key key' : String} {c : Codec γ} {d : Codec δ} {get : α → γ} {get' : β → δ}
    {set : γ → α → α} {set' : δ → β → β} (hc : c.SimulatedBy S d)
    (hset : ∀ a b x y, R a b → S x y → R (set x a) (set' y b)) :
    (Field.of key c get set).SimulatedBy R (Field.of key' d get' set') := by
  intro v a b a' hab h
  obtain ⟨x, hx, rfl⟩ := read_of_eq_ok_iff.1 h
  obtain ⟨y, hy, hxy⟩ := hc v x hx
  exact ⟨_, read_of_eq_ok_iff.2 ⟨y, hy, rfl⟩, hset a b x y hab hxy⟩

namespace Codec

variable {ρ : String → String} {fields : List (Field α)} {fields' : List (Field β)} {start : α} {start' : β}

theorem option_simulates {c : Codec α} (hnull : c.read .null = .error .shape) :
    c.SimulatedBy (fun a o => o = some a) (option c) := by
  intro v a h
  have hv : v ≠ .null := by
    rintro rfl
    rw [hnull] at h
    cases h
  exact ⟨some a, by rw [option_read hv, h]; rfl, rfl⟩

/-- A patch that sets what the field of the full record is read as. -/
theorem set_simulates {key key' : String} {c : Codec γ} {get : α → γ} {get' : β → Option γ} {set : γ → α → α}
    {set' : Option γ → β → β} (hnull : c.read .null = .error .shape)
    (hset : ∀ a b x, R a b → R (set x a) (set' (some x) b)) :
    (Field.of key c get set).SimulatedBy R (Field.of key' (option c) get' set') := by
  refine Field.simulatedBy_of (option_simulates hnull) ?_
  rintro a b x _ hab rfl
  exact hset a b x hab

theorem find?_simulates (h : FieldsSimulatedBy ρ R fields fields') {key : String}
    (hkey : ∀ f ∈ fields, ρ f.key = ρ key → f.key = key) :
    Option.Rel (Field.SimulatedBy · R ·) (fields.find? fun f => f.key == key)
      (fields'.find? fun g => g.key == ρ key) := by
  induction h with
  | nil => exact .none
  | @cons f g _ _ hfg _ ih =>
    obtain ⟨hf, hrest⟩ := List.forall_mem_cons.1 hkey
    rw [List.find?_cons, List.find?_cons, hfg.1]
    by_cases heq : f.key = key
    · simp only [heq, beq_self_eq_true]
      exact .some hfg.2
    · have hne : ρ f.key ≠ ρ key := fun h => heq (hf h)
      simp only [beq_eq_false_iff_ne.2 heq, beq_eq_false_iff_ne.2 hne]
      exact ih hrest

theorem readEntry_simulates (h : FieldsSimulatedBy ρ R fields fields') {e : String × Value}
    (hkey : ∀ f ∈ fields, ρ f.key = ρ e.1 → f.key = e.1) {a a' : α} {b : β} (hab : R a b)
    (hread : readEntry fields a e = .ok a') : ∃ b', readEntry fields' b (ρ e.1, e.2) = .ok b' ∧ R a' b' := by
  unfold readEntry at hread ⊢
  generalize hf : (fields.find? fun f => f.key == e.1) = f at hread
  generalize hg : (fields'.find? fun g => g.key == ρ e.1) = g
  have hfg := find?_simulates h hkey
  rw [hf, hg] at hfg
  cases hfg with
  | some hfg => exact hfg e.2 a b a' hab hread
  | none =>
    cases hread
    exact ⟨b, rfl, hab⟩

theorem readEntries_simulates (h : FieldsSimulatedBy ρ R fields fields') {entries : List (String × Value)}
    (hkeys : ∀ e ∈ entries, ∀ f ∈ fields, ρ f.key = ρ e.1 → f.key = e.1) {a a' : α} {b : β} (hab : R a b)
    (hread : readEntries fields a entries = .ok a') :
    ∃ b', readEntries fields' b (entries.map fun e => (ρ e.1, e.2)) = .ok b' ∧ R a' b' := by
  induction entries generalizing a b with
  | nil =>
    cases hread
    exact ⟨b, rfl, hab⟩
  | cons e entries ih =>
    obtain ⟨he, hentries⟩ := List.forall_mem_cons.1 hkeys
    rw [readEntries_cons, bind_eq_ok_iff] at hread
    obtain ⟨a₁, hfirst, hrest⟩ := hread
    obtain ⟨b₁, hfirst', hab₁⟩ := readEntry_simulates h he hab hfirst
    obtain ⟨b', hrest', hab'⟩ := ih hentries hab₁ hrest
    refine ⟨b', ?_, hab'⟩
    rw [List.map_cons, readEntries_cons, bind_eq_ok_iff]
    exact ⟨b₁, hfirst', hrest'⟩

theorem readItems_simulates (h : FieldsSimulatedBy ρ R fields fields') {items : List Value} {a a' : α} {b : β}
    (hab : R a b) (hread : readItems fields a items = .ok a') :
    ∃ b', readItems fields' b items = .ok b' ∧ R a' b' := by
  induction h generalizing items a b with
  | nil =>
    cases items with
    | nil =>
      cases hread
      exact ⟨b, rfl, hab⟩
    | cons => cases hread
  | @cons f g _ _ hfg _ ih =>
    cases items with
    | nil =>
      cases hread
      exact ⟨b, rfl, hab⟩
    | cons v items =>
      rw [readItems, bind_eq_ok_iff] at hread
      obtain ⟨a₁, hfirst, hrest⟩ := hread
      obtain ⟨b₁, hfirst', hab₁⟩ := hfg.2 v a b a₁ hab hfirst
      obtain ⟨b', hrest', hab'⟩ := ih hab₁ hrest
      refine ⟨b', ?_, hab'⟩
      rw [readItems, bind_eq_ok_iff]
      exact ⟨b₁, hfirst', hrest'⟩

theorem record_simulates (h : FieldsSimulatedBy id R fields fields') (hstart : R start start') :
    (record fields start).SimulatedBy R (record fields' start') := by
  intro v a hread
  simp only [record] at hread ⊢
  split at hread
  · obtain ⟨b, hb, hab⟩ := readEntries_simulates h (fun _ _ _ _ heq => heq) hstart hread
    exact ⟨b, by simpa using hb, hab⟩
  · exact readItems_simulates h hstart hread
  · cases hread

/-- The key `old` of the one record is `new` in the other one. -/
theorem record_simulates_renamed {old new : String} (h : FieldsSimulatedBy (Value.rename old new) R fields fields')
    (hfields : ∀ f ∈ fields, f.key ≠ new) (hapart : fields'.Pairwise Field.Apart) (hstart : R start start')
    {v : Value} (hnodup : v.keys.Nodup) (hnew : new ∉ v.keys) {a : α} (hread : (record fields start).read v = .ok a) :
    ∃ b, (record fields' start').read (v.renameKey old new) = .ok b ∧ R a b := by
  cases v with
  | record entries =>
    have hne : ∀ key ∈ entries.map Prod.fst, key ≠ new := fun key hkey heq => hnew (heq ▸ hkey)
    have hkeys : ∀ e ∈ entries, ∀ f ∈ fields, Value.rename old new f.key = Value.rename old new e.1 → f.key = e.1 :=
      fun e he f hf => Value.eq_of_rename_eq (hfields f hf) (hne e.1 (List.mem_map_of_mem he))
    -- No two keys become one, as `new` is not among them, so the entries can be put in order again.
    have hrenamed : ((entries.map fun e => (Value.rename old new e.1, e.2)).map Prod.fst).Nodup := by
      have hmap : ((entries.map Prod.fst).map (Value.rename old new)).Nodup :=
        List.Nodup.map_on (fun _ hkey _ hkey' => Value.eq_of_rename_eq (hne _ hkey) (hne _ hkey')) hnodup
      rw [List.map_map] at hmap ⊢
      exact hmap
    obtain ⟨b, hb, hab⟩ := readEntries_simulates h hkeys hstart hread
    exact ⟨b, readEntries_perm hapart (List.mergeSort_perm _ _).symm hrenamed hb, hab⟩
  | list items => exact readItems_simulates h hstart hread
  | _ => cases hread

end Codec

/-! ## Styles -/

open Codec

theorem style_simulates : style.SimulatedBy (fun s p => p.applyTo {} = s) stylePatch := by
  have hfontset : (option text).SimulatedBy Eq (option text) := fun v x hx => ⟨x, hx, rfl⟩
  refine record_simulates ?_ rfl
  refine .cons ⟨rfl, set_simulates rfl ?faceName⟩ (.cons ⟨rfl, Field.simulatedBy_of hfontset ?fontset⟩ ?others)
  case faceName =>
    rintro s p x rfl
    rfl
  case fontset =>
    -- A fontset that is null is none in the style and not set in the patch, and the default has none either.
    rintro s p x _ rfl rfl
    simp [Style.Patch.applyTo]
  case others =>
    repeat refine .cons ⟨rfl, set_simulates rfl (by rintro _ _ _ rfl; rfl)⟩ ?_
    exact .nil

/-! ## Placements -/

theorem placement_simulates {v : Value} (hnodup : v.keys.Nodup) (hkey : stylePatchKey ∉ v.keys) {p : Placement}
    (h : placement.read v = .ok p) :
    ∃ a, placementPatch.read (v.renameKey Placement.Field.style.key stylePatchKey) = .ok a ∧ a.applyTo {} = p := by
  refine record_simulates_renamed (R := fun p a => a.applyTo {} = p) ?_ (by decide)
    placementPatchFields_separate.apart ?start hnodup hkey h
  case start => rfl
  refine .cons ⟨by decide, Field.simulatedBy_of style_simulates ?style⟩ ?others
  case style =>
    rintro p a s q rfl rfl
    rfl
  case others =>
    repeat refine .cons ⟨by decide, set_simulates rfl (by rintro _ _ _ rfl; rfl)⟩ ?_
    exact .nil

/-- What is read as a style, or as a placement, can be read as a patch with the same entries or items. The patch
to the default is what was read, and it is valid if and only if that is. Only the style of a placement stands
under another key in a patch. No key occurs twice in a record of a style file. -/
theorem full_read_as_patch :
    (∀ v s, style.read v = .ok s → ∃ p, stylePatch.read v = .ok p ∧ p.applyTo {} = s ∧
      (s.validate = .ok () ↔ p.validate = .ok ())) ∧
    ∀ v p, v.keys.Nodup → stylePatchKey ∉ v.keys → placement.read v = .ok p →
      ∃ a, placementPatch.read (v.renameKey Placement.Field.style.key stylePatchKey) = .ok a ∧ a.applyTo {} = p ∧
        (p.validate = .ok () ↔ a.validate = .ok ()) := by
  constructor
  · intro v s h
    obtain ⟨p, hp, rfl⟩ := style_simulates v s h
    refine ⟨p, hp, rfl, ?_⟩
    rw [Style.validate_eq_ok_iff, Style.Patch.validate_eq_ok_iff,
      Style.Patch.valid_applyTo_iff Placement.valid_default.1]
  · intro v p hnodup hkey h
    obtain ⟨a, ha, rfl⟩ := placement_simulates hnodup hkey h
    refine ⟨a, ha, rfl, ?_⟩
    rw [Placement.validate_eq_ok_iff, Placement.Patch.validate_eq_ok_iff,
      Placement.Patch.valid_applyTo_iff Placement.valid_default]

/-- A placement in a style of its own, which no patch has under the same key. The spacing is not usable. -/
theorem full_read_as_patch_negativeSpacing :
    ∃ a, placementPatch.read (.record [("format", .record [("fontset", .null), ("text_size", .number 12)]),
        ("label_spacing", .number (-1)), ("remark", .null)]) = .ok a ∧
      a.applyTo {} = { style := { textSize := 12 }, labelSpacing := -1 } ∧ a.validate ≠ .ok () := by
  let v : Value := .record [("default_format", .record [("fontset", .null), ("text_size", .number 12)]),
    ("label_spacing", .number (-1)), ("remark", .null)]
  have hread : placement.read v = .ok { style := { textSize := 12 }, labelSpacing := -1 } := by rfl
  obtain ⟨a, ha, happly, hvalid⟩ := full_read_as_patch.2 v _ (by decide) (by decide) hread
  refine ⟨a, ?_, happly, fun h => absurd (hvalid.2 h) (by decide)⟩
  rwa [Value.renameKey, List.mergeSort_of_pairwise (by decide)] at ha

end MapLabel.Config
