import MapLabel.Editing
/-!
# Checks one after the other

Most of what can fail here is a row of checks. What follows a check happens exactly if it passes
(`check_bind_eq_ok_iff`), and a row stops at the first of its members that fails (`mapM_eq_error_iff`,
`forM_eq_error_iff`), so that what comes behind is never looked at. An edit whose check comes first is
therefore made as a whole or not at all (`editing_cases`).
-/

namespace MapLabel

/-! ## Two steps -/

theorem bind_eq_ok_iff {ε α β : Type} {x : Except ε α} {f : α → Except ε β} {b : β} :
    (x >>= f) = .ok b ↔ ∃ a, x = .ok a ∧ f a = .ok b := by
  cases x <;> simp [bind, Except.bind]

theorem map_eq_ok_iff {ε α β : Type} {x : Except ε α} {f : α → β} {b : β} :
    f <$> x = .ok b ↔ ∃ a, x = .ok a ∧ f a = b := by
  cases x <;> simp [Functor.map, Except.map]

@[simp] theorem pure_eq_ok_iff {ε α : Type} {a b : α} : (pure a : Except ε α) = .ok b ↔ a = b := by
  simp [pure, Except.pure]

@[simp] theorem mapError_eq_ok_iff {ε ε' α : Type} {x : Except ε α} {f : ε → ε'} {a : α} :
    x.mapError f = .ok a ↔ x = .ok a := by
  cases x with
  | error e => exact ⟨nofun, nofun⟩
  | ok b =>
    constructor
    · intro h; cases h; rfl
    · intro h; cases h; rfl

theorem mapError_eq_error_iff {ε ε' α : Type} {x : Except ε α} {f : ε → ε'} {e : ε'} :
    x.mapError f = .error e ↔ ∃ e', x = .error e' ∧ f e' = e := by
  cases x with
  | error e' =>
    constructor
    · intro h
      cases h
      exact ⟨e', rfl, rfl⟩
    · rintro ⟨_, h, rfl⟩
      cases h
      rfl
  | ok a => exact ⟨nofun, nofun⟩

@[simp] theorem toOption_eq_some_iff {ε α : Type} {x : Except ε α} {a : α} :
    x.toOption = some a ↔ x = .ok a := by
  cases x <;> simp [Except.toOption]

/-- What follows a check happens exactly if the check passes. -/
theorem check_bind_eq_ok_iff {ε β : Type} {check : Except ε Unit} {next : Except ε β} {b : β} :
    (check >>= fun _ => next) = .ok b ↔ check = .ok () ∧ next = .ok b := by
  rw [bind_eq_ok_iff]
  exact ⟨fun ⟨_, h⟩ => h, fun h => ⟨(), h⟩⟩

/-! ## Edits with the check first -/

section Editing

variable {ε σ : Type}

/-- All that an edit can do whose check comes first: it has its effect, or it is refused and has none. -/
theorem editing_cases (s : σ) (check : Except ε Unit) (effect : σ → σ) :
    let edit : Except ε Unit × σ := editing s do
      check
      modify effect
    (check = .ok () ∧ edit = (.ok (), effect s)) ∨ ∃ e, check = .error e ∧ edit = (.error e, s) := by
  cases check with
  | ok => exact .inl ⟨rfl, rfl⟩
  | error e => exact .inr ⟨e, rfl, rfl⟩

theorem editing_refused {s : σ} {check : Except ε Unit} {effect : σ → σ} {e : ε} :
    let edit : Except ε Unit × σ := editing s do
      check
      modify effect
    edit.1 = .error e → edit.2 = s := by
  intro edit h
  rcases editing_cases s check effect with ⟨-, hedit⟩ | ⟨_, -, hedit⟩
  · cases (congrArg Prod.fst hedit).symm.trans h
  · exact congrArg Prod.snd hedit

end Editing

/-! ## A row of steps -/

/-- The first member of a row with some property is the first one of all, or the one at the front is passed over. -/
theorem exists_first_cons_iff {α : Type} {passed found : α → Prop} {a : α} {row : List α} :
    (∃ before b after, a :: row = before ++ b :: after ∧ (∀ c ∈ before, passed c) ∧ found b) ↔
      found a ∨ passed a ∧ ∃ before b after, row = before ++ b :: after ∧ (∀ c ∈ before, passed c) ∧ found b := by
  constructor
  · rintro ⟨before, b, after, hrow, hbefore, hb⟩
    cases before with
    | nil =>
      cases hrow
      exact .inl hb
    | cons c before =>
      cases hrow
      obtain ⟨ha, hbefore⟩ := List.forall_mem_cons.1 hbefore
      exact .inr ⟨ha, before, b, after, rfl, hbefore, hb⟩
  · rintro (ha | ⟨ha, before, b, after, rfl, hbefore, hb⟩)
    · exact ⟨[], a, row, rfl, by simp, ha⟩
    · exact ⟨a :: before, b, after, rfl, List.forall_mem_cons.2 ⟨ha, hbefore⟩, hb⟩

variable {ε α β : Type} {act : α → Except ε β} {row : List α} {e : ε}

/-- The first member of the row for which the action fails, fails with the error `e`. -/
def FirstFailure (act : α → Except ε β) (row : List α) (e : ε) : Prop :=
  ∃ before a after, row = before ++ a :: after ∧ (∀ b ∈ before, ∃ r, act b = .ok r) ∧ act a = .error e

theorem not_firstFailure_nil : ¬ FirstFailure act [] e := by
  simp [FirstFailure]

theorem firstFailure_cons_iff {a : α} :
    FirstFailure act (a :: row) e ↔ act a = .error e ∨ (∃ r, act a = .ok r) ∧ FirstFailure act row e :=
  exists_first_cons_iff

theorem mapM_eq_error_iff : row.mapM act = .error e ↔ FirstFailure act row e := by
  induction row with
  | nil => exact iff_of_false (by simp [pure, Except.pure]) not_firstFailure_nil
  | cons a row ih =>
    rw [List.mapM_cons, firstFailure_cons_iff, ← ih]
    cases act a with
    | error => simp [bind, Except.bind]
    | ok => cases row.mapM act <;> simp [bind, Except.bind, pure, Except.pure]

theorem forM_eq_ok_iff {check : α → Except ε Unit} : row.forM check = .ok () ↔ ∀ a ∈ row, check a = .ok () := by
  induction row with
  | nil => simp
  | cons a row ih => rw [List.forM, check_bind_eq_ok_iff, ih, List.forall_mem_cons]

theorem forM_eq_error_iff {check : α → Except ε Unit} : row.forM check = .error e ↔ FirstFailure check row e := by
  induction row with
  | nil => exact iff_of_false (by simp [pure, Except.pure]) not_firstFailure_nil
  | cons a row ih =>
    rw [List.forM, firstFailure_cons_iff, ← ih]
    cases check a <;> simp [bind, Except.bind]

end MapLabel
