import MapLabel.Proofs.Config.Records
import Mathlib.Data.List.Forall2
import Mathlib.Data.List.Nodup
import Mathlib.Data.List.Pairwise
/-!
# The forms of a value

What is written as a record may stand in a style file with its entries in another order, or as the list of
its values without their keys. Such forms of a value are read alike. A record is read from its entries as
from their list, if they stand in the order of its fields (`readEntries_eq_readItems`), and the order makes
no difference, as no field minds what the others do (`readEntries_perm`).
-/

namespace MapLabel.Config

namespace Value

/-! ## Finite values and forms -/

/-- All numbers in the value are finite, as they are in a style file. -/
inductive Finite : Value → Prop where
  | null : Finite .null
  | bool (b : Bool) : Finite (.bool b)
  | number {x : Float} : x.isFinite → Finite (.number x)
  | text (s : String) : Finite (.text s)
  | list {items : List Value} : (∀ v ∈ items, Finite v) → Finite (.list items)
  | record {entries : List (String × Value)} : (∀ e ∈ entries, Finite e.2) → Finite (.record entries)

theorem Finite.children {v : Value} (h : v.Finite) : ∀ w ∈ v.children, w.Finite := by
  cases h with
  | list h => exact h
  | record h => exact List.forall_mem_map.2 h
  | _ => exact List.forall_mem_nil _

mutual

/-- The forms of a value. Any of the records in it may have its entries in another order, or be the list of
its values. -/
inductive HasForm : Value → Value → Prop where
  | null : HasForm .null .null
  | bool (b : Bool) : HasForm (.bool b) (.bool b)
  | number (x : Float) : HasForm (.number x) (.number x)
  | text (s : String) : HasForm (.text s) (.text s)
  | list {items items' : List Value} : ItemsHaveForms items items' → HasForm (.list items) (.list items')
  | record {entries entries' entries'' : List (String × Value)} :
    EntriesHaveForms entries entries' → entries'.Perm entries'' → HasForm (.record entries) (.record entries'')
  | positional {entries entries' : List (String × Value)} :
    EntriesHaveForms entries entries' → HasForm (.record entries) (.list (entries'.map Prod.snd))

inductive ItemsHaveForms : List Value → List Value → Prop where
  | nil : ItemsHaveForms [] []
  | cons {v v' : Value} {items items' : List Value} :
    HasForm v v' → ItemsHaveForms items items' → ItemsHaveForms (v :: items) (v' :: items')

inductive EntriesHaveForms : List (String × Value) → List (String × Value) → Prop where
  | nil : EntriesHaveForms [] []
  | cons {key : String} {v v' : Value} {entries entries' : List (String × Value)} :
    HasForm v v' → EntriesHaveForms entries entries' → EntriesHaveForms ((key, v) :: entries) ((key, v') :: entries')

end

-- A value is stored in one of its forms, if nothing in it has to be given up.
mutual

theorem hasForm_stored : ∀ {v : Value}, v.Finite → v.HasForm v.stored
  | .null, _ => .null
  | .bool b, _ => .bool b
  | .number x, .number hx => by
    rw [stored, if_pos hx]
    exact .number x
  | .text s, _ => .text s
  | .list _, .list h => by
    rw [stored]
    exact .list (itemsHaveForms_stored h)
  | .record _, .record h => by
    rw [stored]
    exact .record (entriesHaveForms_stored h) (List.mergeSort_perm _ _).symm

theorem itemsHaveForms_stored : ∀ {items : List Value}, (∀ v ∈ items, v.Finite) →
    ItemsHaveForms items (storedItems items)
  | [], _ => .nil
  | _ :: _, h =>
    .cons (hasForm_stored (List.forall_mem_cons.1 h).1) (itemsHaveForms_stored (List.forall_mem_cons.1 h).2)

theorem entriesHaveForms_stored : ∀ {entries : List (String × Value)}, (∀ e ∈ entries, e.2.Finite) →
    EntriesHaveForms entries (storedEntries entries)
  | [], _ => .nil
  | (_, _) :: _, h =>
    .cons (hasForm_stored (List.forall_mem_cons.1 h).1) (entriesHaveForms_stored (List.forall_mem_cons.1 h).2)

end

theorem eq_null_of_hasForm {v : Value} (h : v.HasForm .null) : v = .null := by
  cases h
  rfl

theorem EntriesHaveForms.keys_eq {entries entries' : List (String × Value)} (h : EntriesHaveForms entries entries') :
    entries'.map Prod.fst = entries.map Prod.fst := by
  induction entries generalizing entries' with
  | nil =>
    cases h
    rfl
  | cons e entries ih =>
    cases h with
    | cons _ hrest => rw [List.map_cons, List.map_cons, ih hrest]

end Value

/-! ## Fields apart from each other -/

namespace Field

variable {α β γ : Type}

/-- Two fields of which neither minds when the other one is read, and neither is written any different. -/
structure Apart (f g : Field α) : Prop where
  comm : ∀ v w a b, (f.read v a >>= g.read w) = .ok b ↔ (g.read w a >>= f.read v) = .ok b
  write_right : ∀ v a b, f.read v a = .ok b → g.write b = g.write a
  write_left : ∀ v a b, g.read v a = .ok b → f.write b = f.write a

theorem Apart.symm {f g : Field α} (h : f.Apart g) : g.Apart f where
  comm v w a b := (h.comm w v a b).symm
  write_right := h.write_left
  write_left := h.write_right

instance : Std.Symm (@Apart α) := ⟨fun _ _ h => h.symm⟩

/-- Fields are apart if their setters commute and their getters do not see what the other one sets. -/
theorem apart_of {key key' : String} {c : Codec β} {c' : Codec γ} {get : α → β} {get' : α → γ} {set : β → α → α}
    {set' : γ → α → α} (hset : ∀ x y a, set' y (set x a) = set x (set' y a))
    (hright : ∀ x a, get' (set x a) = get' a) (hleft : ∀ y a, get (set' y a) = get a) :
    (Field.of key c get set).Apart (Field.of key' c' get' set') where
  comm v w a b := by
    simp only [bind_eq_ok_iff, read_of_eq_ok_iff]
    constructor
    · rintro ⟨_, ⟨x, hx, rfl⟩, y, hy, rfl⟩
      exact ⟨_, ⟨y, hy, rfl⟩, x, hx, (hset x y a).symm⟩
    · rintro ⟨_, ⟨y, hy, rfl⟩, x, hx, rfl⟩
      exact ⟨_, ⟨x, hx, rfl⟩, y, hy, hset x y a⟩
  write_right v a b h := by
    obtain ⟨x, -, rfl⟩ := read_of_eq_ok_iff.1 h
    exact congrArg c'.write (hright x a)
  write_left v a b h := by
    obtain ⟨y, -, rfl⟩ := read_of_eq_ok_iff.1 h
    exact congrArg c.write (hleft y a)

end Field

/-! ## The order of entries -/

namespace Codec

variable {α : Type} {fields : List (Field α)}

/-- Reads one entry of a record, which may be unknown. -/
def readEntry (fields : List (Field α)) (a : α) (e : String × Value) : Except Refusal α :=
  match fields.find? fun f => f.key == e.1 with
  | some f => f.read e.2 a
  | none => .ok a

theorem readEntries_cons (a : α) (e : String × Value) (entries : List (String × Value)) :
    readEntries fields a (e :: entries) = readEntry fields a e >>= fun b => readEntries fields b entries := by
  rw [readEntries, List.foldlM_cons]
  rfl

/-- Entries with two keys can be read in either order. -/
theorem readEntry_comm (hapart : fields.Pairwise Field.Apart) {e e' : String × Value} (hkey : e.1 ≠ e'.1) {a b : α} :
    (readEntry fields a e >>= fun a => readEntry fields a e') = .ok b ↔
      (readEntry fields a e' >>= fun a => readEntry fields a e) = .ok b := by
  unfold readEntry
  cases hf : fields.find? fun f => f.key == e.1 with
  | none => cases fields.find? fun f => f.key == e'.1 <;> simp [bind_eq_ok_iff]
  | some f =>
    cases hg : fields.find? fun f => f.key == e'.1 with
    | none => simp [bind_eq_ok_iff]
    | some g =>
      have hne : f ≠ g := by
        rintro rfl
        have h₁ := List.find?_some hf
        have h₂ := List.find?_some hg
        simp only [beq_iff_eq] at h₁ h₂
        exact hkey (h₁.symm.trans h₂)
      have hfg : f.Apart g := hapart.forall (List.mem_of_find?_eq_some hf) (List.mem_of_find?_eq_some hg) hne
      exact hfg.comm e.2 e'.2 a b

/-- The order of the entries makes no difference. -/
theorem readEntries_perm (hapart : fields.Pairwise Field.Apart) {entries entries' : List (String × Value)}
    (hperm : entries.Perm entries') (hnodup : (entries.map Prod.fst).Nodup) {a b : α}
    (h : readEntries fields a entries = .ok b) : readEntries fields a entries' = .ok b := by
  induction hperm generalizing a with
  | nil => exact h
  | cons e _ ih =>
    rw [readEntries_cons, bind_eq_ok_iff] at h ⊢
    obtain ⟨a', hfirst, hrest⟩ := h
    exact ⟨a', hfirst, ih (List.nodup_cons.1 hnodup).2 hrest⟩
  | swap e e' entries =>
    -- Two neighbours change places. Whatever they are read into, the entries behind them are read into the same.
    have hkey : e'.1 ≠ e.1 := fun heq => (List.nodup_cons.1 hnodup).1 (by simp [heq])
    simp only [readEntries_cons, ← bind_assoc] at h ⊢
    rw [bind_eq_ok_iff] at h ⊢
    obtain ⟨a', hboth, hrest⟩ := h
    exact ⟨a', (readEntry_comm hapart hkey).1 hboth, hrest⟩
  | trans hperm₁ _ ih₁ ih₂ =>
    have hnodup₂ := (hperm₁.map Prod.fst).nodup_iff.1 hnodup
    exact ih₂ hnodup₂ (ih₁ hnodup h)

theorem find?_key (hkeys : (fields.map Field.key).Nodup) {f : Field α} (hf : f ∈ fields) :
    (fields.find? fun g => g.key == f.key) = some f := by
  cases hg : fields.find? fun g => g.key == f.key with
  | none =>
    have hnone := List.find?_eq_none.1 hg f hf
    simp at hnone
  | some g =>
    have hkey := List.find?_some hg
    rw [List.inj_on_of_nodup_map hkeys (List.mem_of_find?_eq_some hg) hf (by simpa using hkey)]

/-- Values by their keys are read as values by their places, if the keys are those of the fields in their
order. -/
theorem readEntries_eq_readItems (hkeys : (fields.map Field.key).Nodup) {fs : List (Field α)} (hfs : fs ⊆ fields)
    {entries : List (String × Value)} (h : entries.map Prod.fst = fs.map Field.key) (a : α) :
    readEntries fields a entries = readItems fs a (entries.map Prod.snd) := by
  induction entries generalizing fs a with
  | nil =>
    cases fs with
    | nil => rfl
    | cons => cases h
  | cons e entries ih =>
    cases fs with
    | nil => cases h
    | cons f fs =>
      obtain ⟨hkey, hrest⟩ := List.cons.inj h
      have hfind : (fields.find? fun g => g.key == e.1) = some f := by
        rw [show e.1 = f.key from hkey]
        exact find?_key hkeys (hfs List.mem_cons_self)
      rw [readEntries_cons, readEntry, hfind, List.map_cons, readItems]
      exact bind_congr fun b => ih (List.subset_of_cons_subset hfs) hrest b

end Codec

end MapLabel.Config
