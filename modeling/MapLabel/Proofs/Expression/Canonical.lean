import MapLabel.Expression.Printer
import MapLabel.Proofs.Expression.Grammar
import Mathlib.Data.List.DropRight
/-!
# Canonical expressions

The reader yields expressions of one form only, the canonical ones, and these are also the ones that
can be read back from what the printer writes. `print_inverts_parse` states both, and what follows: a
text that is read, printed and read again gives the same expression, and no two canonical expressions
are written alike.
-/

namespace MapLabel.Expression

open Grammar

def isConcat : Expression → Bool
  | concat _ => true
  | _ => false

/-- Concatenations are flat and have at least two parts. Attribute names are trimmed and could stand
between brackets. -/
inductive Canonical : Expression → Prop where
  | literal (text : String) : Canonical (.literal text)
  | field {name : String} :
    name ≠ "" → Text.trim name.toList = name.toList → '[' ∉ name.toList → ']' ∉ name.toList →
      Canonical (.field name)
  | concat {parts : List Expression} :
    2 ≤ parts.length → (∀ p ∈ parts, p.isConcat = false) → (∀ p ∈ parts, Canonical p) →
      Canonical (.concat parts)

/-! ## Trimmed names -/

theorem mem_of_mem_trim {c : Char} {cs : List Char} (h : c ∈ Text.trim cs) : c ∈ cs := by
  have hright : c ∈ Text.trimLeft cs := (List.rdropWhile_prefix Text.isBlank (Text.trimLeft cs)).subset h
  exact (List.dropWhile_sublist Text.isBlank).subset hright

theorem trim_idem (cs : List Char) : Text.trim (Text.trim cs) = Text.trim cs := by
  -- Trimming the right end leaves the first character, which is not blank after the left end is trimmed.
  have hleft : Text.trimLeft (Text.trim cs) = Text.trim cs := by
    rcases ht : Text.trim cs with _ | ⟨c, ds⟩
    · rfl
    · obtain ⟨rest, hrest⟩ := List.rdropWhile_prefix Text.isBlank (Text.trimLeft cs)
      have hhead : (Text.trimLeft cs).head? = some c := by
        rw [← hrest]
        exact congrArg (fun l => (l ++ rest).head?) ht
      have hnot := List.head?_dropWhile_not Text.isBlank cs
      rw [show cs.dropWhile Text.isBlank = Text.trimLeft cs from rfl, hhead] at hnot
      exact trimLeft_of_not_blank (by simpa using hnot) ds
  have hright : (Text.trim cs).rdropWhile Text.isBlank = Text.trim cs := List.rdropWhile_idempotent _ _
  calc Text.trim (Text.trim cs) = (Text.trimLeft (Text.trim cs)).rdropWhile Text.isBlank := rfl
    _ = Text.trim cs := by rw [hleft, hright]

/-! ## What is read is canonical -/

theorem canonical_of_term {t : List Char} {e : Expression} (h : Term t e) :
    e.isConcat = false ∧ Canonical e := by
  cases h with
  | literal _ _ => exact ⟨rfl, .literal _⟩
  | @field name hopen hclose hne =>
    refine ⟨rfl, .field ?_ ?_ ?_ ?_⟩
    · intro h
      exact hne (by simpa using congrArg String.toList h)
    · rw [String.toList_ofList, trim_idem]
    · rw [String.toList_ofList]
      exact fun h => hopen (mem_of_mem_trim h)
    · rw [String.toList_ofList]
      exact fun h => hclose (mem_of_mem_trim h)

theorem canonical_of_further {cs : List Char} {es : List Expression} (h : Further cs es) :
    ∀ e ∈ es, e.isConcat = false ∧ Canonical e := by
  induction h with
  | nil => intro e he; cases he
  | cons _ _ ht _ ih =>
    intro e he
    rcases List.mem_cons.1 he with rfl | he
    · exact canonical_of_term ht
    · exact ih e he

theorem canonical_of_row {cs : List Char} {es : List Expression} (h : Row cs es) :
    ∀ e ∈ es, e.isConcat = false ∧ Canonical e := by
  cases h with
  | mk _ ht hf _ =>
    intro e he
    rcases List.mem_cons.1 he with rfl | he
    · exact canonical_of_term ht
    · exact canonical_of_further hf e he

theorem canonical_of_derives {cs : List Char} {e : Expression} (h : Derives cs e) : Canonical e := by
  cases h with
  | single hr => exact (canonical_of_row hr e (List.mem_singleton_self e)).2
  | concat hr =>
    exact .concat (by simp) (fun p hp => (canonical_of_row hr p hp).1) fun p hp => (canonical_of_row hr p hp).2

theorem canonical_of_parse {s : String} {e : Expression} (h : parse s = .ok e) : Canonical e :=
  canonical_of_derives (parse_iff_derives.1 h)

/-! ## What is canonical is read back -/

theorem quoted_escape (text : List Char) : Quoted '\'' (escape text) text := by
  induction text with
  | nil => exact .nil
  | cons c cs ih =>
    rw [escape]
    split
    · exact .escaped c ih
    · rename_i h
      exact .plain (fun hc => h (.inr hc)) (fun hc => h (.inl hc)) ih

theorem term_printChars {e : Expression} (hc : e.isConcat = false) (h : Canonical e) : Term e.printChars e := by
  cases h with
  | literal text =>
    have ht := Term.literal (.inl rfl) (quoted_escape text.toList)
    rwa [String.ofList_toList] at ht
  | @field name hne htrim hopen hclose =>
    have ht := Term.field hopen hclose (by rw [htrim]; simpa using hne)
    rwa [htrim, String.ofList_toList] at ht
  | concat => cases hc

/-- Behind the first of several parts stand the others, each after a plus sign between blanks. -/
theorem further_printParts {p : Expression} {ps : List Expression} (h : ∀ q ∈ ps, Term q.printChars q) :
    ∃ cs, Further cs ps ∧ printParts (p :: ps) = p.printChars ++ cs := by
  induction ps generalizing p with
  | nil => exact ⟨[], .nil, by simp [printParts]⟩
  | cons q ps ih =>
    obtain ⟨cs, hf, hcs⟩ := ih (p := q) fun r hr => h r (List.mem_cons_of_mem q hr)
    have hblank : Blanks [' '] := by simp [Blanks]; decide
    exact ⟨_, .cons hblank hblank (h q List.mem_cons_self) hf, by simp [printParts, hcs]⟩

theorem derives_printChars {e : Expression} (h : Canonical e) : Derives e.printChars e := by
  have hnone : Blanks [] := by simp [Blanks]
  cases hc : e.isConcat with
  | false => exact .single (by simpa using Row.mk hnone (term_printChars hc h) .nil hnone)
  | true =>
    cases h with
    | literal => cases hc
    | field => cases hc
    | @concat parts hlen hflat hparts =>
      match parts, hlen with
      | p :: q :: ps, _ =>
        have hterm : ∀ r ∈ p :: q :: ps, Term r.printChars r := fun r hr =>
          term_printChars (hflat r hr) (hparts r hr)
        obtain ⟨cs, hf, hcs⟩ := further_printParts (p := p) fun r hr => hterm r (List.mem_cons_of_mem p hr)
        refine .concat ?_
        rw [printChars, hcs]
        simpa using Row.mk hnone (hterm p List.mem_cons_self) hf hnone

theorem parse_print {e : Expression} (h : Canonical e) : parse e.print = .ok e := by
  rw [parse_iff_derives, print, String.toList_ofList]
  exact derives_printChars h

theorem parse_print_iff {e : Expression} : parse e.print = .ok e ↔ Canonical e :=
  ⟨canonical_of_parse, parse_print⟩

/-- Reading yields canonical expressions, and printing and reading returns an expression exactly if it
is canonical. -/
theorem print_inverts_parse :
    (∀ (s : String) (e : Expression), parse s = .ok e → Canonical e) ∧
    (∀ e : Expression, parse e.print = .ok e ↔ Canonical e) ∧
    (∀ (s : String) (e : Expression), parse s = .ok e → parse e.print = parse s) ∧
    ∀ e₁ e₂ : Expression, Canonical e₁ → Canonical e₂ → e₁.print = e₂.print → e₁ = e₂ := by
  refine ⟨fun s e => canonical_of_parse, fun e => parse_print_iff, ?_, ?_⟩
  · intro s e h
    rw [parse_print (canonical_of_parse h), h]
  · intro e₁ e₂ h₁ h₂ h
    have heq : (.ok e₁ : Except ParseError Expression) = .ok e₂ := by
      rw [← parse_print h₁, ← parse_print h₂, h]
    exact Except.ok.inj heq

end MapLabel.Expression
