import MapLabel.Expression.Parser
import Mathlib.Data.List.TakeWhile
/-!
# The grammar of expressions

The grammar is given by rules, without regard to how an input is read. `parse_iff_derives`: the reader
accepts exactly what the rules derive and yields exactly the expression that they assign.
`derives_exactly_parse` adds that the rules never assign two expressions to one text.

Each function of the reader has an equation that says what it takes off its input: `cs = taken ++ rest`.
-/

namespace MapLabel.Expression.Grammar

/-! ## The rules -/

/-- A row of blanks, which may be empty. -/
def Blanks (cs : List Char) : Prop := ∀ c ∈ cs, Text.isBlank c = true

/-- What stands between two quotes `q`, and the text that it denotes. -/
inductive Quoted (q : Char) : List Char → List Char → Prop where
  | nil : Quoted q [] []
  | escaped (c : Char) {cs text : List Char} : Quoted q cs text → Quoted q ('\\' :: c :: cs) (c :: text)
  | plain {c : Char} {cs text : List Char} :
    c ≠ '\\' → c ≠ q → Quoted q cs text → Quoted q (c :: cs) (c :: text)

/-- A term and its expression. -/
inductive Term : List Char → Expression → Prop where
  | literal {q : Char} {cs text : List Char} :
    q = '\'' ∨ q = '"' → Quoted q cs text → Term (q :: cs ++ [q]) (.literal (String.ofList text))
  | field {name : List Char} :
    '[' ∉ name → ']' ∉ name → Text.trim name ≠ [] →
      Term ('[' :: name ++ [']']) (.field (String.ofList (Text.trim name)))

/-- Terms behind plus signs, with blanks allowed around the signs. -/
inductive Further : List Char → List Expression → Prop where
  | nil : Further [] []
  | cons {w w' t cs : List Char} {e : Expression} {es : List Expression} :
    Blanks w → Blanks w' → Term t e → Further cs es → Further (w ++ '+' :: w' ++ t ++ cs) (e :: es)

/-- A row of terms, with blanks allowed around it. -/
inductive Row : List Char → List Expression → Prop where
  | mk {w w' t cs : List Char} {e : Expression} {es : List Expression} :
    Blanks w → Term t e → Further cs es → Blanks w' → Row (w ++ t ++ cs ++ w') (e :: es)

/-- A text and its expression. -/
inductive Derives : List Char → Expression → Prop where
  | single {cs : List Char} {e : Expression} : Row cs [e] → Derives cs e
  | concat {cs : List Char} {e₁ e₂ : Expression} {es : List Expression} :
    Row cs (e₁ :: e₂ :: es) → Derives cs (.concat (e₁ :: e₂ :: es))

/-! ## Blanks -/

theorem trimLeft_append {w : List Char} (hw : Blanks w) (cs : List Char) :
    Text.trimLeft (w ++ cs) = Text.trimLeft cs := List.dropWhile_append_of_pos hw

theorem trimLeft_of_not_blank {c : Char} (h : Text.isBlank c = false) (cs : List Char) :
    Text.trimLeft (c :: cs) = c :: cs := List.dropWhile_cons_of_neg (by simp [h])

/-- Trimming takes off a row of blanks. -/
theorem exists_blanks (cs : List Char) : ∃ w, Blanks w ∧ cs = w ++ Text.trimLeft cs :=
  ⟨cs.takeWhile Text.isBlank, fun _ => List.mem_takeWhile_imp, List.takeWhile_append_dropWhile.symm⟩

/-- A term begins with a character that is not blank. -/
theorem trimLeft_term {t : List Char} {e : Expression} (h : Term t e) (cs : List Char) :
    Text.trimLeft (t ++ cs) = t ++ cs := by
  cases h with
  | literal hq _ => rcases hq with rfl | rfl <;> exact trimLeft_of_not_blank (by decide) _
  | field _ _ _ => exact trimLeft_of_not_blank (by decide) _

/-! ## What each function of the reader takes off its input -/

theorem quoted_of_literal? {q : Char} {cs text rest : List Char}
    (h : Parser.literal? q cs = some (text, rest)) : ∃ body, Quoted q body text ∧ cs = body ++ q :: rest := by
  fun_induction Parser.literal? q cs generalizing text with
  | case1 => cases h
  | case2 => cases h
  | case3 c cs ih =>
    obtain ⟨⟨text', rest'⟩, hr, he⟩ := Option.map_eq_some_iff.1 h
    obtain ⟨rfl, rfl⟩ := Prod.mk.inj he
    obtain ⟨body, hb, rfl⟩ := ih hr
    exact ⟨'\\' :: c :: body, .escaped c hb, rfl⟩
  | case4 cs =>
    cases h
    exact ⟨[], .nil, rfl⟩
  | case5 c cs hc hq ih =>
    obtain ⟨⟨text', rest'⟩, hr, he⟩ := Option.map_eq_some_iff.1 h
    obtain ⟨rfl, rfl⟩ := Prod.mk.inj he
    obtain ⟨body, hb, rfl⟩ := ih hr
    exact ⟨c :: body, .plain hc hq hb, rfl⟩

theorem literal?_of_quoted {q : Char} (hq : q ≠ '\\') {body text : List Char} (h : Quoted q body text)
    (rest : List Char) : Parser.literal? q (body ++ q :: rest) = some (text, rest) := by
  induction h with
  | nil => rw [List.nil_append, Parser.literal?.eq_def]; simp [hq]
  | escaped c _ ih => rw [List.cons_append, List.cons_append, Parser.literal?.eq_def]; simp [ih]
  | plain hc hcq _ ih => rw [List.cons_append, Parser.literal?.eq_def]; simp [hc, hcq, ih]

/-- The name of an attribute runs up to the first bracket, which has to close it. -/
theorem field_eq_ok_iff {start cs name rest : List Char} :
    Parser.field start cs = .ok (name, rest) ↔
      ∃ raw, '[' ∉ raw ∧ ']' ∉ raw ∧ Text.trim raw ≠ [] ∧ name = Text.trim raw ∧ cs = raw ++ ']' :: rest := by
  constructor
  · intro h
    have hsplit := List.takeWhile_append_dropWhile (p := (!Parser.isBracket ·)) (l := cs)
    have hraw : ∀ c ∈ cs.takeWhile (!Parser.isBracket ·), c ≠ '[' ∧ c ≠ ']' := by
      intro c hc
      simpa [Parser.isBracket] using List.mem_takeWhile_imp hc
    unfold Parser.field at h
    split at h
    · cases h
    · rename_i r hr
      dsimp only at h
      split at h
      · cases h
      · rename_i hname
        cases h
        rw [hr] at hsplit
        exact ⟨_, fun hm => (hraw _ hm).1 rfl, fun hm => (hraw _ hm).2 rfl, hname, rfl, hsplit.symm⟩
    · cases h
  · rintro ⟨raw, hopen, hclose, hne, rfl, rfl⟩
    have hraw : ∀ c ∈ raw, (!Parser.isBracket c) = true := by
      intro c hc
      have h₁ : c ≠ '[' := fun h => hopen (h ▸ hc)
      have h₂ : c ≠ ']' := fun h => hclose (h ▸ hc)
      simp [Parser.isBracket, h₁, h₂]
    have hstop : Parser.isBracket ']' = true := by decide
    simp [Parser.field, List.takeWhile_append_of_pos hraw, List.dropWhile_append_of_pos hraw, hstop, hne]

theorem term_eq_ok_iff {cs rest : List Char} {e : Expression} :
    Parser.term cs = .ok (e, rest) ↔ ∃ w t, Blanks w ∧ Term t e ∧ cs = w ++ t ++ rest := by
  constructor
  · intro h
    obtain ⟨w, hw, hcs⟩ := exists_blanks cs
    unfold Parser.term at h
    split at h
    · cases h
    · rename_i c ds hd
      rw [hd] at hcs
      split at h
      · rename_i hq
        split at h
        · rename_i text r hl
          cases h
          obtain ⟨body, hb, rfl⟩ := quoted_of_literal? hl
          exact ⟨w, _, hw, .literal hq hb, by simp [hcs]⟩
        · cases h
      · split at h
        · rename_i hc
          split at h
          · rename_i name r hf
            cases h
            obtain ⟨raw, hopen, hclose, hne, rfl, rfl⟩ := field_eq_ok_iff.1 hf
            exact ⟨w, _, hw, .field hopen hclose hne, by simp [hcs, hc]⟩
          · cases h
        · cases h
  · rintro ⟨w, t, hw, ht, rfl⟩
    rw [Parser.term, List.append_assoc, trimLeft_append hw, trimLeft_term ht]
    cases ht with
    | @literal q body text hq hb =>
      have hback : q ≠ '\\' := by rcases hq with rfl | rfl <;> decide
      simp [hq, literal?_of_quoted hback hb]
    | @field raw hopen hclose hne =>
      have hf : Parser.field ('[' :: (raw ++ ']' :: rest)) (raw ++ ']' :: rest) = .ok (Text.trim raw, rest) :=
        field_eq_ok_iff.2 ⟨raw, hopen, hclose, hne, rfl, rfl⟩
      simp [hf]

/-! ## Rows of terms -/

theorem row_of_terms {cs : List Char} {es : List Expression} (h : Parser.terms cs = .ok es) : Row cs es := by
  fun_induction Parser.terms cs generalizing es with
  | case1 => cases h
  | case2 cs e rest ht hr =>
    cases h
    obtain ⟨w, t, hw, hte, rfl⟩ := term_eq_ok_iff.1 ht
    obtain ⟨w', hw', hrest⟩ := exists_blanks rest
    rw [hr, List.append_nil] at hrest
    simpa [hrest] using Row.mk hw hte .nil hw'
  | case3 cs e rest ht ds hr ih =>
    obtain ⟨w, t, hw, hte, rfl⟩ := term_eq_ok_iff.1 ht
    obtain ⟨v, hv, hrest⟩ := exists_blanks rest
    rw [hr] at hrest
    cases hds : Parser.terms ds with
    | error => rw [hds] at h; cases h
    | ok fs =>
      rw [hds] at h
      cases h
      cases ih hds with
      | mk hw₁ ht₁ hf₁ hw₁' => simpa [hrest] using Row.mk hw hte (.cons hv hw₁ ht₁ hf₁) hw₁'
  | case4 => cases h

theorem terms_of_last {cs rest : List Char} {e : Expression} (ht : Parser.term cs = .ok (e, rest))
    (hr : Text.trimLeft rest = []) : Parser.terms cs = .ok [e] := by
  rw [Parser.terms]
  split
  · rename_i hterm; rw [ht] at hterm; cases hterm
  · rename_i hterm
    rw [ht] at hterm
    cases hterm
    split
    · rfl
    · rename_i hrest; rw [hr] at hrest; cases hrest

theorem terms_of_plus {cs rest ds : List Char} {e : Expression} (ht : Parser.term cs = .ok (e, rest))
    (hr : Text.trimLeft rest = '+' :: ds) : Parser.terms cs = (Parser.terms ds).map (e :: ·) := by
  rw [Parser.terms]
  split
  · rename_i hterm; rw [ht] at hterm; cases hterm
  · rename_i hterm
    rw [ht] at hterm
    cases hterm
    split
    · rename_i hrest; rw [hr] at hrest; cases hrest
    · rename_i hrest
      rw [hr] at hrest
      cases hrest
      rw [if_pos rfl]

/-- The induction is on the terms behind the first one, each of which is the first of its own rest. -/
theorem terms_of_further {cs w' : List Char} {es : List Expression} (hf : Further cs es) (hw' : Blanks w') :
    ∀ {w t : List Char} {e : Expression}, Blanks w → Term t e →
      Parser.terms (w ++ t ++ cs ++ w') = .ok (e :: es) := by
  induction hf with
  | nil =>
    intro w t e hw ht
    have hterm : Parser.term (w ++ t ++ [] ++ w') = .ok (e, w') :=
      term_eq_ok_iff.2 ⟨w, t, hw, ht, by simp⟩
    exact terms_of_last hterm (by simpa [Text.trimLeft] using trimLeft_append hw' [])
  | @cons v v' t₁ cs e₁ es hv hv' ht₁ _ ih =>
    intro w t e hw ht
    have hterm : Parser.term (w ++ t ++ (v ++ '+' :: v' ++ t₁ ++ cs) ++ w')
        = .ok (e, v ++ '+' :: (v' ++ t₁ ++ cs ++ w')) :=
      term_eq_ok_iff.2 ⟨w, t, hw, ht, by simp⟩
    have hplus : Text.trimLeft (v ++ '+' :: (v' ++ t₁ ++ cs ++ w')) = '+' :: (v' ++ t₁ ++ cs ++ w') := by
      rw [trimLeft_append hv, trimLeft_of_not_blank (by decide)]
    rw [terms_of_plus hterm hplus, ih hv' ht₁]
    rfl

theorem terms_eq_ok_iff {cs : List Char} {es : List Expression} : Parser.terms cs = .ok es ↔ Row cs es :=
  ⟨row_of_terms, fun | .mk hw ht hf hw' => terms_of_further hf hw' hw ht⟩

/-! ## Whole expressions -/

/-- A row has a term, so its expression is that of `ofTerms`. -/
theorem derives_iff {cs : List Char} {e : Expression} :
    Derives cs e ↔ ∃ es, Row cs es ∧ e = Parser.ofTerms es := by
  constructor
  · intro h
    cases h with
    | single h => exact ⟨_, h, rfl⟩
    | concat h => exact ⟨_, h, rfl⟩
  · rintro ⟨es, h, rfl⟩
    match es, h with
    | [_], h => exact .single h
    | _ :: _ :: _, h => exact .concat h

theorem parse_iff_derives {s : String} {e : Expression} : parse s = .ok e ↔ Derives s.toList e := by
  rw [derives_iff, parse]
  cases h : Parser.terms s.toList with
  | error =>
    refine ⟨nofun, ?_⟩
    rintro ⟨es, hrow, -⟩
    rw [terms_eq_ok_iff.2 hrow] at h
    cases h
  | ok es =>
    constructor
    · intro he
      cases he
      exact ⟨es, terms_eq_ok_iff.1 h, rfl⟩
    · rintro ⟨es', hrow, rfl⟩
      rw [terms_eq_ok_iff.2 hrow] at h
      cases h
      rfl

/-- The reader accepts exactly the texts that the rules derive, with the expression that they assign,
and the rules assign no second one. -/
theorem derives_exactly_parse :
    (∀ (s : String) (e : Expression), parse s = .ok e ↔ Derives s.toList e) ∧
    ∀ (cs : List Char) (e₁ e₂ : Expression), Derives cs e₁ → Derives cs e₂ → e₁ = e₂ := by
  refine ⟨fun s e => parse_iff_derives, fun cs e₁ e₂ h₁ h₂ => ?_⟩
  have hp₁ : parse (String.ofList cs) = .ok e₁ := parse_iff_derives.2 (by simpa using h₁)
  have hp₂ : parse (String.ofList cs) = .ok e₂ := parse_iff_derives.2 (by simpa using h₂)
  rw [hp₁] at hp₂
  exact Except.ok.inj hp₂

end MapLabel.Expression.Grammar
