import MapLabel.Proofs.Color.Hexadecimal
import MapLabel.Proofs.Config.Forms
/-!
# Laws of codecs

A codec is lawful if it reads what it writes, in whatever form that stands in the file, up to what has no
place in a file. The laws go along the way codecs are put together: those of plain values, of options and
lists, and of records, which are lawful if their fields are and do not get in each other's way
(`record_lawful`).
-/

namespace MapLabel.Config

variable {α β : Type}

/-- What is written for a value is read as the value without what has no place in a file. What is read from
a file has no numbers but those of the file. -/
class Codec.Lawful (c : Codec α) (bare : outParam (α → α)) : Prop where
  read_form : ∀ {a v}, (c.write a).Finite → (c.write a).HasForm v → c.read v = .ok (bare a)
  write_finite : ∀ {v a}, v.Finite → c.read v = .ok a → (c.write a).Finite

/-- The same of a field, where `put a b` is the record `b` with the field of `a`. -/
structure Field.Lawful (f : Field α) (put : α → α → α) : Prop where
  read_form : ∀ {a v} b, (f.write a).Finite → (f.write a).HasForm v → f.read v b = .ok (put a b)
  write_finite : ∀ {v a b}, v.Finite → f.read v a = .ok b → (f.write b).Finite

namespace Codec

/-! ## What is written -/

section

variable {c : Codec α}

@[simp] theorem float_write_finite_iff {x : Float} : (float.write x).Finite ↔ x.isFinite := by
  constructor
  · intro h
    cases h
    assumption
  · exact .number

@[simp] theorem bool_write_finite {b : Bool} : (bool.write b).Finite := .bool b

@[simp] theorem text_write_finite {s : String} : (text.write s).Finite := .text s

@[simp] theorem char_write_finite {a : Char} : (char.write a).Finite := .text _

@[simp] theorem color_write_finite {a : Color} : (color.write a).Finite := .text _

@[simp] theorem choice_write_finite [Choice α] {a : α} : (choice.write a).Finite := .text _

@[simp] theorem option_write_finite_iff {o : Option α} :
    ((option c).write o).Finite ↔ ∀ a ∈ o, (c.write a).Finite := by
  cases o with
  | none => simp [option, Value.Finite.null]
  | some a => simp [option]

@[simp] theorem list_write_finite_iff {as : List α} : ((list c).write as).Finite ↔ ∀ a ∈ as, (c.write a).Finite := by
  constructor
  · intro h
    exact List.forall_mem_map.1 h.children
  · intro h
    exact .list (List.forall_mem_map.2 h)

end

/-! ## Plain values -/

instance : float.Lawful id where
  read_form _ h := by
    cases h
    rfl
  write_finite {v _} hv h := by
    cases v with
    | number x =>
      cases h
      exact hv
    | _ => cases h

instance : bool.Lawful id where
  read_form _ h := by
    cases h
    rfl
  write_finite _ _ := .bool _

instance : text.Lawful id where
  read_form _ h := by
    cases h
    rfl
  write_finite _ _ := .text _

instance : char.Lawful id where
  read_form {c _} _ h := by
    cases h
    simp [char]
  write_finite _ _ := .text _

instance : color.Lawful id where
  read_form {c _} _ h := by
    cases h
    simp [color, Color.ofText, Color.ofHex?_toHex]
  write_finite _ _ := .text _

end Codec

/-- Choices that can be told from their names. -/
class LawfulChoice (α : Type) [Choice α] : Prop where
  ofName?_name : ∀ a : α, Choice.ofName? (Choice.name a) = some a

instance : LawfulChoice TextTransform := ⟨fun a => by cases a <;> decide⟩
instance : LawfulChoice Attachment := ⟨fun a => by cases a <;> decide⟩
instance : LawfulChoice VerticalAlignment := ⟨fun a => by cases a <;> decide⟩
instance : LawfulChoice HorizontalAlignment := ⟨fun a => by cases a <;> decide⟩
instance : LawfulChoice Justification := ⟨fun a => by cases a <;> decide⟩

namespace Codec

instance [Choice α] [LawfulChoice α] : (choice : Codec α).Lawful id where
  read_form {a _} _ h := by
    cases h
    simp [choice, LawfulChoice.ofName?_name a]
  write_finite _ _ := .text _

/-! ## Options and lists -/

variable {c : Codec α} {bare : α → α}

theorem option_read {v : Value} (hv : v ≠ .null) : (option c).read v = some <$> c.read v := by
  cases v with
  | null => contradiction
  | _ => rfl

/-- Null stands for none of the values. -/
class NeverNull (c : Codec α) : Prop where
  write_ne_null : ∀ a, c.write a ≠ .null

instance : float.NeverNull := ⟨nofun⟩
instance : bool.NeverNull := ⟨nofun⟩
instance : text.NeverNull := ⟨nofun⟩
instance : char.NeverNull := ⟨nofun⟩
instance : color.NeverNull := ⟨nofun⟩
instance [Choice α] : (choice : Codec α).NeverNull := ⟨nofun⟩

instance [hc : c.Lawful bare] [hnull : c.NeverNull] : (option c).Lawful (Option.map bare) where
  read_form {a v} hfinite h := by
    cases a with
    | none =>
      cases h
      rfl
    | some a =>
      have hv : v ≠ .null := by
        rintro rfl
        exact hnull.write_ne_null a (Value.eq_null_of_hasForm h)
      rw [option_read hv, hc.read_form hfinite h]
      rfl
  write_finite {v a} hv h := by
    by_cases hnone : v = .null
    · subst hnone
      cases h
      exact .null
    · rw [option_read hnone] at h
      obtain ⟨x, hx, rfl⟩ := map_eq_ok_iff.1 h
      exact hc.write_finite hv hx

theorem mapM_read_forms (hc : c.Lawful bare) {as : List α} {items : List Value}
    (hfinite : ∀ a ∈ as, (c.write a).Finite) (h : Value.ItemsHaveForms (as.map c.write) items) :
    items.mapM c.read = .ok (as.map bare) := by
  induction as generalizing items with
  | nil =>
    cases h
    rfl
  | cons a as ih =>
    obtain ⟨ha, has⟩ := List.forall_mem_cons.1 hfinite
    cases h with
    | cons hfirst hrest =>
      rw [List.mapM_cons, hc.read_form ha hfirst, ih has hrest]
      rfl

instance [hc : c.Lawful bare] : (list c).Lawful (List.map bare) where
  read_form {as _} hfinite h := by
    cases h with
    | list h => exact mapM_read_forms hc (list_write_finite_iff.1 hfinite) h
  write_finite {v as} hv h := by
    refine list_write_finite_iff.2 fun a ha => ?_
    obtain ⟨w, hw, hread⟩ := list_read h a ha
    exact hc.write_finite (hv.children w hw) hread

/-! ## Fields and records -/

/-- A field is as lawful as its codec. -/
theorem lawful_of {key : String} {c : Codec β} {bare : β → β} [hc : c.Lawful bare] {get : α → β} {set : β → α → α}
    (hget : ∀ x a, get (set x a) = x) :
    (Field.of key c get set).Lawful fun a b => set (bare (get a)) b where
  read_form b hfinite h := Field.read_of_eq_ok_iff.2 ⟨_, hc.read_form hfinite h, rfl⟩
  write_finite {v a b} hv h := by
    obtain ⟨x, hx, rfl⟩ := Field.read_of_eq_ok_iff.1 h
    have hwrite := hc.write_finite hv hx
    rwa [← hget x a] at hwrite

variable {fields : List (Field α)} {puts : List (α → α → α)} {start : α} {bare : α → α}

theorem write_record_finite_iff {a : α} :
    ((record fields start).write a).Finite ↔ ∀ f ∈ fields, (f.write a).Finite := by
  constructor
  · intro h f hf
    exact h.children _ (List.mem_map.2 ⟨_, List.mem_map_of_mem hf, rfl⟩)
  · intro h
    exact .record (List.forall_mem_map.2 h)

theorem exists_put (hfields : List.Forall₂ Field.Lawful fields puts) {f : Field α} (hf : f ∈ fields) :
    ∃ put, f.Lawful put := by
  induction hfields with
  | nil => cases hf
  | cons hfirst _ ih =>
    rcases List.mem_cons.1 hf with rfl | hf
    · exact ⟨_, hfirst⟩
    · exact ih hf

/-- Fields with keys of their own that do not get in each other's way. -/
structure Separate (fields : List (Field α)) : Prop where
  keys : (fields.map Field.key).Nodup
  apart : fields.Pairwise Field.Apart

/-- Fields that are read from forms of what they wrote for `a` put together what `a` has in them. -/
theorem readItems_forms (hfields : List.Forall₂ Field.Lawful fields puts) {a : α}
    (hfinite : ∀ f ∈ fields, (f.write a).Finite) {entries : List (String × Value)}
    (h : Value.EntriesHaveForms (fields.map fun f => (f.key, f.write a)) entries) (b : α) :
    readItems fields b (entries.map Prod.snd) = .ok (puts.foldl (fun b put => put a b) b) := by
  induction hfields generalizing entries b with
  | nil =>
    cases h
    rfl
  | cons hf _ ih =>
    obtain ⟨hfirst, hrest⟩ := List.forall_mem_cons.1 hfinite
    cases h with
    | cons hform hforms =>
      rw [List.map_cons, readItems, hf.read_form b hfirst hform]
      exact ih hrest hforms _

theorem record_lawful (hseparate : Separate fields) (hfields : List.Forall₂ Field.Lawful fields puts)
    (hstart : ((record fields start).write start).Finite)
    (hbare : ∀ a, puts.foldl (fun b put => put a b) start = bare a) : (record fields start).Lawful bare where
  read_form {a v} hfinite h := by
    have hwrites := write_record_finite_iff.1 hfinite
    cases h with
    | @record _ entries entries' hforms hperm =>
      -- Before they were put into another order, the entries could be read by their places.
      have hentries : entries.map Prod.fst = fields.map Field.key := by
        rw [hforms.keys_eq, List.map_map]
        rfl
      have hread : readEntries fields start entries = .ok (bare a) := by
        rw [readEntries_eq_readItems hseparate.keys (List.Subset.refl _) hentries,
          readItems_forms hfields hwrites hforms, hbare]
      exact readEntries_perm hseparate.apart hperm (hentries ▸ hseparate.keys) hread
    | positional hforms =>
      rw [← hbare]
      exact readItems_forms hfields hwrites hforms start
  write_finite {v a} hv h := by
    refine write_record_finite_iff.2 (record_preserves (P := fun a => ∀ f ∈ fields, (f.write a).Finite) ?_
      (write_record_finite_iff.1 hstart) hv.children h)
    -- The field that is read has a finite value now, and the others have the one they had.
    intro f hf v a b hv ha h g hg
    by_cases hgf : g = f
    · subst hgf
      obtain ⟨put, hlaw⟩ := exists_put hfields hf
      exact hlaw.write_finite hv h
    · rw [(hseparate.apart.forall hf hg (Ne.symm hgf)).write_right v a b h]
      exact ha g hg

/-! ## Values made up of others -/

theorem numberPair_write_finite_iff {key₁ key₂ : String} {x : Float × Float} :
    ((numberPair key₁ key₂).write x).Finite ↔ x.1.isFinite ∧ x.2.isFinite := by
  simp [numberPair, write_record_finite_iff]

theorem numberPair_lawful {key₁ key₂ : String} (hkeys : key₁ ≠ key₂) : (numberPair key₁ key₂).Lawful id := by
  have hboth : (record
      [.of key₁ float (·.1.getD 0) fun x p => (some x, p.2), .of key₂ float (·.2.getD 0) fun x p => (p.1, some x)]
      ((none, none) : Option Float × Option Float)).Lawful fun p => (some (p.1.getD 0), some (p.2.getD 0)) := by
    refine record_lawful ⟨?_, ?_⟩ (.cons (lawful_of fun _ _ => rfl) <| .cons (lawful_of fun _ _ => rfl) .nil) ?_
      fun _ => rfl
    · simpa using hkeys
    · exact List.pairwise_pair.2 (Field.apart_of (fun _ _ _ => rfl) (fun _ _ => rfl) fun _ _ => rfl)
    · simpa [write_record_finite_iff] using by decide
  constructor
  · intro a v hfinite h
    simp only [numberPair] at hfinite h ⊢
    rw [hboth.read_form hfinite h]
    rfl
  · intro v a hv h
    simp only [numberPair, bind_eq_ok_iff] at h
    obtain ⟨o, ho, hsome⟩ := h
    split at hsome
    · cases hsome
      exact hboth.write_finite hv ho
    · cases hsome

/-- A codec that only gives the values of another one a new shape is as lawful. -/
theorem lawful_of_reshaped {c : Codec α} {d : Codec β} (hc : c.Lawful id) (shape : α → β) (unshape : β → α)
    (hread : ∀ v, d.read v = shape <$> c.read v) (hwrite : ∀ b, d.write b = c.write (unshape b))
    (hshape : ∀ b, shape (unshape b) = b) (hunshape : ∀ a, unshape (shape a) = a) : d.Lawful id where
  read_form {b v} hfinite h := by
    rw [hwrite] at hfinite h
    rw [hread, hc.read_form hfinite h, id, id, map_eq_ok_iff]
    exact ⟨_, rfl, hshape b⟩
  write_finite {v b} hv h := by
    rw [hread] at h
    obtain ⟨a, ha, rfl⟩ := map_eq_ok_iff.1 h
    rw [hwrite, hunshape]
    exact hc.write_finite hv ha

end Codec

end MapLabel.Config
