import MapLabel.Proofs.Expression.Grammar
import MapLabel.Proofs.Style.Drawable
/-!
# Where a rejected text goes wrong

A text is viable if it is the beginning of an expression. `parse_error_located`: a rejected text either
ends too early, and then all of it is viable, or the error points at the first character with which it
stops being viable.

`Stuck` says without regard to the reader what stands before a fault and what begins with it. The reader
stops exactly there (`terms_eq_error_iff`). Where the fault is a character, `Stuck` leaves open what comes
behind it, so no other continuation would have helped.
-/

namespace MapLabel.Expression

/-- Some continuation of the text is an expression. -/
def Viable (s : String) : Prop := ∃ (t : String) (e : Expression), parse (s ++ t) = .ok e

namespace Grammar

/-! ## Faults -/

/-- What may stand before a term: terms with their plus signs, and blanks. -/
inductive Opening : List Char → Prop where
  | start {w : List Char} : Blanks w → Opening w
  | next {w t v cs : List Char} {e : Expression} :
    Blanks w → Term t e → Blanks v → Opening cs → Opening (w ++ t ++ v ++ '+' :: cs)

/-- What stands behind an opening quote `q` that is not closed. The last character may be a backslash. -/
inductive Unclosed (q : Char) : List Char → Prop where
  | nil : Unclosed q []
  | backslash : Unclosed q ['\\']
  | escaped (c : Char) {cs : List Char} : Unclosed q cs → Unclosed q ('\\' :: c :: cs)
  | plain {c : Char} {cs : List Char} : c ≠ '\\' → c ≠ q → Unclosed q cs → Unclosed q (c :: cs)

/-- What may stand in the brackets of an attribute. -/
def Unbracketed (cs : List Char) : Prop := '[' ∉ cs ∧ ']' ∉ cs

/-- A fault in place of a term: what of the term stands before it, and what begins with it. -/
inductive TermFault : ParseProblem → List Char → List Char → Prop where
  | endOfInput : TermFault .endOfInput [] []
  | openLiteral {q : Char} {body : List Char} :
    q = '\'' ∨ q = '"' → Unclosed q body → TermFault .openLiteral [] (q :: body)
  | openAttribute {body : List Char} : Unbracketed body → TermFault .openAttribute [] ('[' :: body)
  | expectedTerm {c : Char} (rest : List Char) :
    Text.isBlank c = false → ¬(c = '\'' ∨ c = '"') → c ≠ '[' → TermFault (.expectedTerm c) [] (c :: rest)
  | blankName {name : List Char} (rest : List Char) :
    Blanks name → TermFault .blankName ('[' :: name) (']' :: rest)
  | nestedBracket {name : List Char} (rest : List Char) :
    Unbracketed name → TermFault .nestedBracket ('[' :: name) ('[' :: rest)

/-- A fault, what stands before it, and what begins with it. -/
inductive Stuck : ParseProblem → List Char → List Char → Prop where
  | term {p : ParseProblem} {opening taken rest : List Char} :
    Opening opening → TermFault p taken rest → Stuck p (opening ++ taken) rest
  | expectedPlus {opening t v : List Char} {e : Expression} {c : Char} (rest : List Char) :
    Opening opening → Term t e → Blanks v → Text.isBlank c = false → c ≠ '+' →
      Stuck (.expectedPlus c) (opening ++ t ++ v) (c :: rest)

/-! ## The reader stops at a fault -/

theorem literal?_eq_none_iff {q : Char} {cs : List Char} : Parser.literal? q cs = none ↔ Unclosed q cs := by
  constructor
  · intro h
    fun_induction Parser.literal? q cs with
    | case1 => exact .nil
    | case2 => exact .backslash
    | case3 c cs ih => exact .escaped c (ih (Option.map_eq_none_iff.1 h))
    | case4 => cases h
    | case5 c cs hc hcq ih => exact .plain hc hcq (ih (Option.map_eq_none_iff.1 h))
  · intro h
    induction h with
    | nil => rfl
    | backslash => simp [Parser.literal?]
    | escaped c _ ih => rw [Parser.literal?.eq_def]; simp [ih]
    | plain hc hcq _ ih => rw [Parser.literal?.eq_def]; simp [hc, hcq, ih]

theorem Blanks.unbracketed {cs : List Char} (h : Blanks cs) : Unbracketed cs := by
  constructor
  · intro hm
    cases h _ hm
  · intro hm
    cases h _ hm

/-- A text is a name up to its end or up to the first bracket. -/
theorem exists_name (cs : List Char) :
    ∃ name, Unbracketed name ∧
      (cs = name ∨ (∃ rest, cs = name ++ ']' :: rest) ∨ ∃ rest, cs = name ++ '[' :: rest) := by
  induction cs with
  | nil => exact ⟨[], by simp [Unbracketed], .inl rfl⟩
  | cons c cs ih =>
    by_cases hclose : c = ']'
    · exact ⟨[], by simp [Unbracketed], .inr (.inl ⟨cs, by rw [hclose]; rfl⟩)⟩
    by_cases hopen : c = '['
    · exact ⟨[], by simp [Unbracketed], .inr (.inr ⟨cs, by rw [hopen]; rfl⟩)⟩
    obtain ⟨name, hname, hcs⟩ := ih
    refine ⟨c :: name, by simp [Unbracketed, Ne.symm hopen, Ne.symm hclose, hname.1, hname.2], ?_⟩
    rcases hcs with rfl | ⟨rest, rfl⟩ | ⟨rest, rfl⟩
    · exact .inl rfl
    · exact .inr (.inl ⟨rest, rfl⟩)
    · exact .inr (.inr ⟨rest, rfl⟩)

section Field

variable {start name : List Char} (hname : Unbracketed name)
include hname

theorem Unbracketed.not_isBracket : ∀ c ∈ name, (!Parser.isBracket c) = true := by
  intro c hc
  have hopen : c ≠ '[' := fun h => hname.1 (h ▸ hc)
  have hclose : c ≠ ']' := fun h => hname.2 (h ▸ hc)
  simp [Parser.isBracket, hopen, hclose]

theorem field_of_end : Parser.field start name = .error ⟨.openAttribute, start⟩ := by
  rw [Parser.field, List.dropWhile_eq_nil_iff.2 hname.not_isBracket]

theorem field_of_close (rest : List Char) :
    Parser.field start (name ++ ']' :: rest) =
      if Text.trim name = [] then .error ⟨.blankName, ']' :: rest⟩ else .ok (Text.trim name, rest) := by
  have hstop : Parser.isBracket ']' = true := by decide
  simp [Parser.field, List.takeWhile_append_of_pos hname.not_isBracket,
    List.dropWhile_append_of_pos hname.not_isBracket, hstop]

theorem field_of_open (rest : List Char) :
    Parser.field start (name ++ '[' :: rest) = .error ⟨.nestedBracket, '[' :: rest⟩ := by
  have hstop : Parser.isBracket '[' = true := by decide
  simp [Parser.field, List.dropWhile_append_of_pos hname.not_isBracket, hstop]

end Field

theorem termFault_of_field {cs rest : List Char} {p : ParseProblem}
    (h : Parser.field ('[' :: cs) cs = .error ⟨p, rest⟩) :
    ∃ taken, TermFault p taken rest ∧ '[' :: cs = taken ++ rest := by
  obtain ⟨name, hname, rfl | ⟨tail, rfl⟩ | ⟨tail, rfl⟩⟩ := exists_name cs
  · rw [field_of_end hname] at h
    cases h
    exact ⟨[], .openAttribute hname, rfl⟩
  · rw [field_of_close hname] at h
    split at h
    · rename_i hblank
      cases h
      exact ⟨_, .blankName tail (Text.trim_eq_nil_iff.1 hblank), rfl⟩
    · cases h
  · rw [field_of_open hname] at h
    cases h
    exact ⟨_, .nestedBracket tail hname, rfl⟩

theorem term_eq_error_iff {cs rest : List Char} {p : ParseProblem} :
    Parser.term cs = .error ⟨p, rest⟩ ↔ ∃ w taken, Blanks w ∧ TermFault p taken rest ∧ cs = w ++ taken ++ rest := by
  constructor
  · intro h
    -- Behind the blanks at the front stands a character that is not blank, if anything does.
    obtain ⟨w, hw, hcs⟩ := exists_blanks cs
    have hfront := List.head?_dropWhile_not Text.isBlank cs
    rw [show cs.dropWhile Text.isBlank = Text.trimLeft cs from rfl] at hfront
    unfold Parser.term at h
    split at h
    · rename_i hd
      cases h
      exact ⟨w, [], hw, .endOfInput, by simpa [hd] using hcs⟩
    · rename_i c ds hd
      rw [hd] at hcs hfront
      split at h
      · rename_i hq
        split at h
        · cases h
        · rename_i hl
          cases h
          exact ⟨w, [], hw, .openLiteral hq (literal?_eq_none_iff.1 hl), by simpa using hcs⟩
      · rename_i hq
        split at h
        · rename_i hc
          split at h
          · cases h
          · rename_i hf
            cases h
            subst hc
            obtain ⟨taken, hfault, htaken⟩ := termFault_of_field hf
            exact ⟨w, taken, hw, hfault, by rw [hcs, htaken, List.append_assoc]⟩
        · rename_i hc
          cases h
          exact ⟨w, [], hw, .expectedTerm ds (by simpa using hfront) hq hc, by simpa using hcs⟩
  · rintro ⟨w, taken, hw, hfault, rfl⟩
    rw [Parser.term, List.append_assoc, trimLeft_append hw]
    cases hfault with
    | endOfInput => rfl
    | @openLiteral q body hq hbody =>
      have hblank : Text.isBlank q = false := by rcases hq with rfl | rfl <;> decide
      rw [List.nil_append, trimLeft_of_not_blank hblank]
      simp [hq, literal?_eq_none_iff.2 hbody]
    | openAttribute hbody =>
      rw [List.nil_append, trimLeft_of_not_blank (by decide)]
      simp [field_of_end hbody]
    | expectedTerm tail hblank hq hc =>
      rw [List.nil_append, trimLeft_of_not_blank hblank]
      simp [hq, hc]
    | blankName tail hname =>
      rw [List.cons_append, trimLeft_of_not_blank (by decide)]
      simp [field_of_close hname.unbracketed, Text.trim_eq_nil_iff.2 hname]
    | nestedBracket tail hname =>
      rw [List.cons_append, trimLeft_of_not_blank (by decide)]
      simp [field_of_open hname]

theorem terms_of_term_error {cs : List Char} {f : Parser.Failure} (h : Parser.term cs = .error f) :
    Parser.terms cs = .error f := by
  rw [Parser.terms]
  split
  · rename_i hterm; rw [h] at hterm; cases hterm; rfl
  · rename_i hterm; rw [h] at hterm; cases hterm

theorem terms_of_other {cs rest ds : List Char} {e : Expression} {c : Char}
    (ht : Parser.term cs = .ok (e, rest)) (hr : Text.trimLeft rest = c :: ds) (hc : c ≠ '+') :
    Parser.terms cs = .error ⟨.expectedPlus c, c :: ds⟩ := by
  rw [Parser.terms]
  split
  · rename_i hterm; rw [ht] at hterm; cases hterm
  · rename_i hterm
    rw [ht] at hterm
    cases hterm
    split
    · rename_i hrest; rw [hr] at hrest; cases hrest
    · rename_i hrest
      rw [hr] at hrest
      cases hrest
      rw [if_neg hc]

/-- The reader gets over what stands before a term, and then only some blanks are left of it. -/
theorem terms_of_opening {opening : List Char} (h : Opening opening) :
    ∃ es w, Blanks w ∧ ∀ cs, Parser.terms (opening ++ cs) = (Parser.terms (w ++ cs)).map (es ++ ·) := by
  induction h with
  | @start w hw =>
    refine ⟨[], w, hw, fun cs => ?_⟩
    cases Parser.terms (w ++ cs) <;> rfl
  | @next w t v opening e hw ht hv _ ih =>
    obtain ⟨es, w', hw', hterms⟩ := ih
    refine ⟨e :: es, w', hw', fun cs => ?_⟩
    have hterm : Parser.term (w ++ t ++ v ++ '+' :: opening ++ cs) = .ok (e, v ++ '+' :: (opening ++ cs)) :=
      term_eq_ok_iff.2 ⟨w, t, hw, ht, by simp⟩
    have hplus : Text.trimLeft (v ++ '+' :: (opening ++ cs)) = '+' :: (opening ++ cs) := by
      rw [trimLeft_append hv, trimLeft_of_not_blank (by decide)]
    rw [terms_of_plus hterm hplus, hterms]
    cases Parser.terms (w' ++ cs) <;> rfl

/-- One more term in front changes nothing about a fault. -/
theorem Stuck.behind {p : ParseProblem} {before rest w t v : List Char} {e : Expression} (hw : Blanks w)
    (ht : Term t e) (hv : Blanks v) (h : Stuck p before rest) : Stuck p (w ++ t ++ v ++ '+' :: before) rest := by
  cases h with
  | term hopening hfault => simpa using Stuck.term (.next hw ht hv hopening) hfault
  | expectedPlus tail hopening ht' hv' hblank hc =>
    simpa using Stuck.expectedPlus tail (.next hw ht hv hopening) ht' hv' hblank hc

theorem stuck_of_terms {cs rest : List Char} {p : ParseProblem} (h : Parser.terms cs = .error ⟨p, rest⟩) :
    ∃ before, cs = before ++ rest ∧ Stuck p before rest := by
  -- The fault lies in the first term, behind the plus sign after it, or in the place of that sign.
  fun_induction Parser.terms cs with
  | case1 cs f ht =>
    cases h
    obtain ⟨w, taken, hw, hfault, rfl⟩ := term_eq_error_iff.1 ht
    exact ⟨w ++ taken, rfl, .term (.start hw) hfault⟩
  | case2 => cases h
  | case3 cs e tail ht ds hr ih =>
    obtain ⟨w, t, hw, hte, rfl⟩ := term_eq_ok_iff.1 ht
    obtain ⟨v, hv, htail⟩ := exists_blanks tail
    rw [hr] at htail
    cases hds : Parser.terms ds with
    | ok => rw [hds] at h; cases h
    | error f =>
      rw [hds] at h
      cases h
      obtain ⟨before, rfl, hstuck⟩ := ih hds
      refine ⟨w ++ t ++ v ++ '+' :: before, by simp [htail], ?_⟩
      exact hstuck.behind hw hte hv
  | case4 cs e tail ht c ds hr hc =>
    cases h
    obtain ⟨w, t, hw, hte, rfl⟩ := term_eq_ok_iff.1 ht
    obtain ⟨v, hv, htail⟩ := exists_blanks tail
    have hfront := List.head?_dropWhile_not Text.isBlank tail
    rw [show tail.dropWhile Text.isBlank = Text.trimLeft tail from rfl, hr] at hfront
    rw [hr] at htail
    exact ⟨w ++ t ++ v, by simp [htail], .expectedPlus ds (.start hw) hte hv (by simpa using hfront) hc⟩

theorem terms_of_stuck {p : ParseProblem} {before rest : List Char} (h : Stuck p before rest) :
    Parser.terms (before ++ rest) = .error ⟨p, rest⟩ := by
  cases h with
  | @term _ opening taken _ hopening hfault =>
    obtain ⟨es, w, hw, hterms⟩ := terms_of_opening hopening
    have hterm : Parser.term (w ++ (taken ++ rest)) = .error ⟨p, rest⟩ :=
      term_eq_error_iff.2 ⟨w, taken, hw, hfault, by simp⟩
    rw [List.append_assoc, hterms, terms_of_term_error hterm]
    rfl
  | @expectedPlus opening t v e c tail hopening ht hv hblank hc =>
    obtain ⟨es, w, hw, hterms⟩ := terms_of_opening hopening
    have hterm : Parser.term (w ++ (t ++ v ++ c :: tail)) = .ok (e, v ++ c :: tail) :=
      term_eq_ok_iff.2 ⟨w, t, hw, ht, by simp⟩
    have hother : Text.trimLeft (v ++ c :: tail) = c :: tail := by
      rw [trimLeft_append hv, trimLeft_of_not_blank hblank]
    rw [List.append_assoc, List.append_assoc, ← List.append_assoc t, hterms, terms_of_other hterm hother hc]
    rfl

theorem terms_eq_error_iff {cs rest : List Char} {p : ParseProblem} :
    Parser.terms cs = .error ⟨p, rest⟩ ↔ ∃ before, cs = before ++ rest ∧ Stuck p before rest :=
  ⟨stuck_of_terms, fun ⟨_, hcs, h⟩ => hcs ▸ terms_of_stuck h⟩

/-! ## What can be completed -/

/-- Some continuation of the characters is a row of terms. -/
def Completable (cs : List Char) : Prop := ∃ ext es, Parser.terms (cs ++ ext) = .ok es

/-- Behind an opening, the beginning of a term can be completed. -/
theorem completable_of_term {opening taken ext : List Char} {e : Expression} (hopening : Opening opening)
    (ht : Term (taken ++ ext) e) : Completable (opening ++ taken) := by
  obtain ⟨es, w, hw, hterms⟩ := terms_of_opening hopening
  have hnone : Blanks [] := List.forall_mem_nil _
  have hlast : Parser.terms (w ++ (taken ++ ext)) = .ok [e] := by
    simpa using terms_of_further .nil hnone hw ht
  exact ⟨ext, es ++ [e], by rw [List.append_assoc, hterms, hlast]; rfl⟩

/-- So can a whole term with blanks behind it. -/
theorem completable_of_blanks {opening t v : List Char} {e : Expression} (hopening : Opening opening)
    (ht : Term t e) (hv : Blanks v) : Completable (opening ++ t ++ v) := by
  obtain ⟨es, w, hw, hterms⟩ := terms_of_opening hopening
  have hlast : Parser.terms (w ++ (t ++ v)) = .ok [e] := by
    simpa using terms_of_further .nil hv hw ht
  exact ⟨[], es ++ [e], by rw [List.append_nil, List.append_assoc, hterms, hlast]; rfl⟩

theorem term_emptyLiteral : Term "''".toList (.literal "") := .literal (.inl rfl) .nil

/-- An open literal can be closed, with one more character if a backslash is pending. -/
theorem exists_closing {q : Char} {body : List Char} (h : Unclosed q body) :
    ∃ ext text, Quoted q (body ++ ext) text := by
  induction h with
  | nil => exact ⟨[], [], .nil⟩
  | backslash => exact ⟨[q], [q], .escaped q .nil⟩
  | escaped c _ ih =>
    obtain ⟨ext, text, h⟩ := ih
    exact ⟨ext, c :: text, .escaped c h⟩
  | plain hc hcq _ ih =>
    obtain ⟨ext, text, h⟩ := ih
    exact ⟨ext, _ :: text, .plain hc hcq h⟩

/-- The name of an attribute can be made one that is not blank, and closed. -/
theorem term_of_name {name : List Char} (h : Unbracketed name) : ∃ e, Term ('[' :: name ++ "a]".toList) e := by
  have hne : Text.trim (name ++ ['a']) ≠ [] := by
    intro h
    have hblank := Text.trim_eq_nil_iff.1 h 'a' (by simp)
    cases hblank
  have hterm : Term ('[' :: (name ++ ['a']) ++ [']']) (.field (String.ofList (Text.trim (name ++ ['a'])))) :=
    .field (by simp [h.1]) (by simp [h.2]) hne
  exact ⟨_, by simpa using hterm⟩

/-- Every fault either lies at the end of a text that can be completed, or is a character that closes off
what could be completed before it, whatever follows. -/
theorem Stuck.atEnd_or_atChar {p : ParseProblem} {before rest : List Char} (h : Stuck p before rest) :
    (Completable (before ++ rest) ∧ Opening before ∧
      (p = .endOfInput ∧ rest = [] ∨
        (p = .openLiteral ∧ ∃ q body, rest = q :: body ∧ (q = '\'' ∨ q = '"') ∧ Unclosed q body) ∨
        (p = .openAttribute ∧ ∃ name, rest = '[' :: name ∧ Unbracketed name))) ∨
    (((∃ c, p = .expectedTerm c ∨ p = .expectedPlus c) ∨ p = .blankName ∨ p = .nestedBracket) ∧
      ∃ c after, rest = c :: after ∧ Completable before ∧ ∀ tail, Stuck p before (c :: tail)) := by
  cases h with
  | @term _ opening taken _ hopening hfault =>
    cases hfault with
    | endOfInput =>
      rw [List.append_nil, List.append_nil]
      have hcompletable : Completable (opening ++ []) := completable_of_term hopening term_emptyLiteral
      exact .inl ⟨by rwa [List.append_nil] at hcompletable, hopening, .inl ⟨rfl, rfl⟩⟩
    | @openLiteral q body hq hbody =>
      rw [List.append_nil]
      obtain ⟨ext, text, hquoted⟩ := exists_closing hbody
      have hterm : Term (q :: body ++ (ext ++ [q])) (.literal (String.ofList text)) := by
        simpa using Term.literal hq hquoted
      exact .inl ⟨completable_of_term hopening hterm, hopening, .inr (.inl ⟨rfl, q, body, rfl, hq, hbody⟩)⟩
    | @openAttribute name hname =>
      rw [List.append_nil]
      obtain ⟨e, hterm⟩ := term_of_name hname
      exact .inl ⟨completable_of_term hopening hterm, hopening, .inr (.inr ⟨rfl, name, rfl, hname⟩)⟩
    | @expectedTerm c after hblank hq hc =>
      refine .inr ⟨.inl ⟨c, .inl rfl⟩, c, after, rfl, ?_, fun tail => .term hopening (.expectedTerm tail hblank hq hc)⟩
      exact completable_of_term hopening term_emptyLiteral
    | @blankName name after hname =>
      obtain ⟨e, hterm⟩ := term_of_name hname.unbracketed
      exact .inr ⟨.inr (.inl rfl), ']', after, rfl, completable_of_term hopening hterm,
        fun tail => .term hopening (.blankName tail hname)⟩
    | @nestedBracket name after hname =>
      obtain ⟨e, hterm⟩ := term_of_name hname
      exact .inr ⟨.inr (.inr rfl), '[', after, rfl, completable_of_term hopening hterm,
        fun tail => .term hopening (.nestedBracket tail hname)⟩
  | @expectedPlus opening t v e c after hopening ht hv hblank hc =>
    exact .inr ⟨.inl ⟨c, .inr rfl⟩, c, after, rfl, completable_of_blanks hopening ht hv,
      fun tail => .expectedPlus tail hopening ht hv hblank hc⟩

end Grammar

/-! ## Positions -/

open Grammar

theorem byteLength_append (cs ds : List Char) :
    Parser.byteLength (cs ++ ds) = Parser.byteLength cs + Parser.byteLength ds := by
  induction cs with
  | nil => simp [Parser.byteLength]
  | cons c cs ih => rw [List.cons_append, Parser.byteLength, Parser.byteLength, ih, Nat.add_assoc]

theorem byteLength_eq (cs : List Char) : Parser.byteLength cs = (String.ofList cs).utf8ByteSize := by
  induction cs with
  | nil => rfl
  | cons c cs ih =>
    rw [Parser.byteLength, ih, ← List.singleton_append, String.ofList_append, String.utf8ByteSize_append,
      ← String.singleton_eq_ofList, String.utf8ByteSize_singleton]

/-- A rejected text is stuck, and the position is the number of bytes before the fault. -/
theorem stuck_of_parse {s : String} {err : ParseError} (h : parse s = .error err) :
    ∃ before rest, s.toList = before ++ rest ∧ Stuck err.problem before rest ∧
      err.position = (String.ofList before).utf8ByteSize := by
  unfold parse at h
  split at h
  · cases h
  · rename_i f hf
    cases h
    obtain ⟨before, hs, hstuck⟩ := terms_eq_error_iff.1 hf
    refine ⟨before, f.rest, hs, hstuck, ?_⟩
    rw [hs, byteLength_append, Nat.add_sub_cancel, byteLength_eq]

theorem viable_iff {cs : List Char} : Viable (String.ofList cs) ↔ Completable cs := by
  constructor
  · rintro ⟨t, e, h⟩
    obtain ⟨es, hrow, -⟩ := derives_iff.1 (parse_iff_derives.1 h)
    exact ⟨t.toList, es, terms_eq_ok_iff.2 (by simpa using hrow)⟩
  · rintro ⟨ext, es, h⟩
    have hderives : Derives (cs ++ ext) (Parser.ofTerms es) := derives_iff.2 ⟨es, terms_eq_ok_iff.1 h, rfl⟩
    exact ⟨String.ofList ext, _, parse_iff_derives.2 (by simpa using hderives)⟩

/-- Behind a character at which every continuation gets stuck nothing can be completed. -/
theorem not_viable_of_stuck {p : ParseProblem} {before : List Char} {c : Char}
    (h : ∀ tail, Stuck p before (c :: tail)) : ¬ Viable (String.ofList (before ++ [c])) := by
  rw [viable_iff]
  rintro ⟨ext, es, hterms⟩
  have hstuck := terms_of_stuck (h ext)
  rw [List.append_assoc, List.singleton_append, hstuck] at hterms
  cases hterms

/-! ## Rejected texts -/

/-- The complaints about a text that ends too early. -/
def endMessages : List String :=
  ["unexpected end of input", "unterminated string literal", "unterminated attribute reference"]

/-- The text ends before the expression does. The error points at the end, or at the bracket or the quote
of the term that is not finished. -/
def EndsEarly (s : String) (err : ParseError) : Prop :=
  err.problem.message ∈ endMessages ∧ Viable s ∧
  ∃ before rest, s.toList = before ++ rest ∧ Opening before ∧
    err.position = (String.ofList before).utf8ByteSize ∧
    (err.problem.message = "unexpected end of input" ∧ err.position = s.utf8ByteSize ∨
      (err.problem.message = "unterminated string literal" ∧
        ∃ q body, rest = q :: body ∧ (q = '\'' ∨ q = '"') ∧ Unclosed q body) ∨
      (err.problem.message = "unterminated attribute reference" ∧ ∃ name, rest = '[' :: name ∧ Unbracketed name))

/-- The error points at a character with which the text stops being viable. -/
def EndsViability (s : String) (err : ParseError) : Prop :=
  err.problem.message ∉ endMessages ∧
  ∃ before c after, s.toList = before ++ c :: after ∧ err.position = (String.ofList before).utf8ByteSize ∧
    Viable (String.ofList before) ∧ ¬ Viable (String.ofList (before ++ [c]))

theorem message_not_mem_endMessages {p : ParseProblem}
    (h : (∃ c, p = .expectedTerm c ∨ p = .expectedPlus c) ∨ p = .blankName ∨ p = .nestedBracket) :
    p.message ∉ endMessages := by
  -- The complaints that quote a character are infinitely many, but none of them begins like those about the end.
  have hend : ∀ m ∈ endMessages, m.toList.head? = some 'u' := by decide
  have hexpected : ∀ (s t : String) (c : Char), s.toList.head? = some 'e' → s ++ toString c ++ t ∉ endMessages := by
    intro s t c hs hm
    have hhead := hend _ hm
    rw [String.toList_append, String.toList_append, List.append_assoc, List.head?_append, hs] at hhead
    cases hhead
  rcases h with ⟨c, rfl | rfl⟩ | rfl | rfl
  · exact hexpected "expected a literal or [attribute], found '" "'" c (by decide)
  · exact hexpected "expected '+' or end of input, found '" "'" c (by decide)
  · decide
  · decide

/-- A text is rejected for one of two reasons, and the error lies at the start of one of its characters or
at its end. -/
theorem parse_error_located {s : String} {err : ParseError} (h : parse s = .error err) :
    Xor (EndsEarly s err) (EndsViability s err) ∧ (⟨err.position⟩ : String.Pos.Raw).IsValid s := by
  obtain ⟨before, rest, hs, hstuck, hposition⟩ := stuck_of_parse h
  have hofList : s = String.ofList before ++ String.ofList rest := by
    rw [← String.ofList_append, ← hs, String.ofList_toList]
  have hvalid : (⟨err.position⟩ : String.Pos.Raw).IsValid s :=
    String.Pos.Raw.isValid_iff_exists_append.2 ⟨_, _, hofList, by rw [hposition]; rfl⟩
  refine ⟨?_, hvalid⟩
  rcases hstuck.atEnd_or_atChar with ⟨hcompletable, hopening, hproblem⟩ | ⟨hproblem, c, after, rfl, hbefore, htail⟩
  · have hviable : Viable s := by
      rwa [hofList, ← String.ofList_append, viable_iff]
    have hmessage : err.problem.message ∈ endMessages := by
      rcases hproblem with ⟨hp, -⟩ | ⟨hp, -⟩ | ⟨hp, -⟩ <;> rw [hp] <;> decide
    refine .inl ⟨⟨hmessage, hviable, before, rest, hs, hopening, hposition, ?_⟩, fun hoffends => hoffends.1 hmessage⟩
    rcases hproblem with ⟨hp, rfl⟩ | ⟨hp, hrest⟩ | ⟨hp, hrest⟩
    · refine .inl ⟨by rw [hp]; rfl, ?_⟩
      rw [hposition, hofList]
      simp
    · exact .inr (.inl ⟨by rw [hp]; rfl, hrest⟩)
    · exact .inr (.inr ⟨by rw [hp]; rfl, hrest⟩)
  · have hmessage := message_not_mem_endMessages hproblem
    refine .inr ⟨⟨hmessage, before, c, after, hs, hposition, viable_iff.2 hbefore, not_viable_of_stuck htail⟩, ?_⟩
    exact fun hends => hmessage hends.1

theorem parse_error_located_blankName :
    ∃ err, parse "'é' + [ ] +" = .error err ∧ err.position = 9 ∧
      Xor (EndsEarly "'é' + [ ] +" err) (EndsViability "'é' + [ ] +" err) ∧
      (⟨err.position⟩ : String.Pos.Raw).IsValid "'é' + [ ] +" := by
  have h : parse "'é' + [ ] +" = .error ⟨"'é' + [ ] +", 9, .blankName⟩ := by decide +kernel
  exact ⟨_, h, rfl, parse_error_located h⟩

end MapLabel.Expression
