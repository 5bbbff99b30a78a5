import Mathlib.Data.List.TakeWhile
import MapLabel.Text.Transform
/-!
# Words in lower case behind their first character

A capitalized word has its first character in upper case and the rest in lower case. The rest is lowered
on its own, not as it stands in the word, and that shows in one place: a capital sigma which is the first
thing behind a cased first character becomes the small sigma of the middle of a word even where the word
ends with it. `capitalize_in_context_iff`: in all other words the rest is what lowering the whole word
makes of it.
-/

namespace MapLabel

namespace Text

/-! ## What the lower case of a character depends on -/

theorem lowerChar_sigma : lowerChar 'Σ' = ['σ'] := by decide +kernel

theorem not_caseIgnorable_sigma : CaseData.caseIgnorable.contains 'Σ' = false := by decide +kernel

/-- The lower case of a character behind `before` and in front of `rest`. -/
def lowerBetween (before : List Char) (c : Char) (rest : List Char) : List Char :=
  if c = 'Σ' then if meetsCased before && !meetsCased rest then ['ς'] else ['σ'] else lowerChar c

theorem toLowerAfter_cons (before : List Char) (c : Char) (rest : List Char) :
    toLowerAfter before (c :: rest) = lowerBetween before c rest ++ toLowerAfter (c :: before) rest := rfl

/-- Context counts only for a capital sigma at the end of a word. -/
theorem lowerBetween_eq_lowerChar {before rest : List Char} {c : Char}
    (h : ¬ (c = 'Σ' ∧ meetsCased before = true ∧ meetsCased rest = false)) :
    lowerBetween before c rest = lowerChar c := by
  unfold lowerBetween
  split
  · rename_i hc
    have hfinal : (meetsCased before && !meetsCased rest) = false := by
      simpa [hc] using h
    rw [hfinal, hc, lowerChar_sigma]
    rfl
  · rfl

theorem lowerBetween_of_not_meetsCased {before : List Char} (h : meetsCased before = false) (c : Char)
    (rest : List Char) : lowerBetween before c rest = lowerChar c :=
  lowerBetween_eq_lowerChar (by simp [h])

/-- The lower case of a word begins with that of its first character. -/
theorem toLower_cons (c : Char) (cs : List Char) : toLower (c :: cs) = lowerChar c ++ toLowerAfter [c] cs := by
  rw [toLower, toLowerAfter_cons, lowerBetween_of_not_meetsCased (by rfl)]

theorem length_lowerBetween (before : List Char) (c : Char) (rest : List Char) :
    (lowerBetween before c rest).length = (lowerChar c).length := by
  unfold lowerBetween
  split
  · rename_i hc
    rw [hc, lowerChar_sigma]
    split <;> rfl
  · rfl

theorem length_toLowerAfter (before cs : List Char) :
    (toLowerAfter before cs).length = (cs.flatMap lowerChar).length := by
  induction cs generalizing before with
  | nil => rfl
  | cons c cs ih =>
    rw [toLowerAfter_cons, List.length_append, length_lowerBetween, ih, List.flatMap_cons, List.length_append]

/-! ## Contexts -/

/-- Two contexts that look alike behind whatever follows them give the same lower case. -/
theorem toLowerAfter_congr {before before' : List Char}
    (h : ∀ ds, meetsCased (ds ++ before) = meetsCased (ds ++ before')) (cs : List Char) :
    toLowerAfter before cs = toLowerAfter before' cs := by
  -- The context grows at its near end, which is why the hypothesis is about everything put before it.
  induction cs generalizing before before' with
  | nil => rfl
  | cons c cs ih =>
    have hc : lowerBetween before c cs = lowerBetween before' c cs := by
      have hnow : meetsCased before = meetsCased before' := h []
      rw [lowerBetween, lowerBetween, hnow]
    have hcs : toLowerAfter (c :: before) cs = toLowerAfter (c :: before') cs := by
      refine ih fun ds => ?_
      simpa using h (ds ++ [c])
    rw [toLowerAfter_cons, toLowerAfter_cons, hc, hcs]

theorem meetsCased_append (ds bs : List Char) :
    meetsCased (ds ++ bs) = if ds.all CaseData.caseIgnorable.contains then meetsCased bs else meetsCased ds := by
  rw [meetsCased, meetsCased, meetsCased, List.dropWhile_append]
  cases h : ds.dropWhile CaseData.caseIgnorable.contains with
  | nil =>
    have hall : ds.all CaseData.caseIgnorable.contains = true := by
      rw [List.all_eq_true]
      exact List.dropWhile_eq_nil_iff.1 h
    simp [hall]
  | cons d rest =>
    have hall : ds.all CaseData.caseIgnorable.contains = false := by
      rw [Bool.eq_false_iff, ne_eq, List.all_eq_true, ← List.dropWhile_eq_nil_iff, h]
      exact List.cons_ne_nil d rest
    simp [hall]

/-- Characters that case ignores are looked through. -/
theorem meetsCased_append_of_ignorable {ds : List Char} (h : ∀ d ∈ ds, CaseData.caseIgnorable.contains d = true)
    (bs : List Char) : meetsCased (ds ++ bs) = meetsCased bs := by
  rw [meetsCased_append, if_pos (List.all_eq_true.2 h)]

/-- Behind a character that case does not ignore, nothing further away counts. -/
theorem toLowerAfter_cons_append {d : Char} (h : CaseData.caseIgnorable.contains d = false)
    (before before' cs : List Char) :
    toLowerAfter (d :: (before ++ before')) cs = toLowerAfter (d :: before) cs := by
  refine toLowerAfter_congr (fun ds => ?_) cs
  have hnot : (ds ++ d :: before).all CaseData.caseIgnorable.contains ≠ true := by simp [h]
  rw [← List.cons_append, ← List.append_assoc, meetsCased_append, if_neg hnot]

/-- Characters that case ignores are lowered one by one. -/
theorem toLowerAfter_append_of_ignorable {xs : List Char}
    (h : ∀ d ∈ xs, CaseData.caseIgnorable.contains d = true) (before ys : List Char) :
    toLowerAfter before (xs ++ ys) = xs.flatMap lowerChar ++ toLowerAfter (xs.reverse ++ before) ys := by
  induction xs generalizing before with
  | nil => rfl
  | cons d xs ih =>
    obtain ⟨hd, hxs⟩ := List.forall_mem_cons.1 h
    have hsigma : d ≠ 'Σ' := by
      rintro rfl
      cases not_caseIgnorable_sigma.symm.trans hd
    rw [List.cons_append, toLowerAfter_cons, lowerBetween, if_neg hsigma, ih hxs]
    simp

/-- The lower case of characters that case ignores and one behind them that it does not. -/
theorem toLowerAfter_of_ignorable {ignored : List Char} {d : Char}
    (h : ∀ d ∈ ignored, CaseData.caseIgnorable.contains d = true) (hd : CaseData.caseIgnorable.contains d = false)
    (before rest : List Char) :
    toLowerAfter before (ignored ++ d :: rest) = ignored.flatMap lowerChar ++
      (lowerBetween before d rest ++ toLowerAfter (d :: ignored.reverse) rest) := by
  have hreverse : ∀ d ∈ ignored.reverse, CaseData.caseIgnorable.contains d = true := by simpa using h
  have hbetween : lowerBetween (ignored.reverse ++ before) d rest = lowerBetween before d rest := by
    rw [lowerBetween, lowerBetween, meetsCased_append_of_ignorable hreverse]
  rw [toLowerAfter_append_of_ignorable h, toLowerAfter_cons, hbetween, toLowerAfter_cons_append hd]

end Text

namespace TextTransform

open Text

/-! ## Words -/

/-- The word with its first character in upper case, and behind it what lowering the whole word makes of
the rest. -/
def capitalizeInContext : List Char → List Char
  | [] => []
  | c :: cs => upperChar c ++ (toLower (c :: cs)).drop (lowerChar c).length

/-- The word begins with a cased character, and the first one behind it that case does not ignore is a
capital sigma with no cased character after it. -/
def SigmaBehindFirst (w : List Char) : Prop :=
  ∃ c ignored rest, w = c :: (ignored ++ 'Σ' :: rest) ∧ meetsCased [c] = true ∧
    (∀ d ∈ ignored, CaseData.caseIgnorable.contains d = true) ∧ meetsCased rest = false

theorem capitalizeInContext_cons (c : Char) (cs : List Char) :
    capitalizeInContext (c :: cs) = upperChar c ++ toLowerAfter [c] cs := by
  rw [capitalizeInContext, toLower_cons, List.drop_left]

theorem length_capitalizeWord (w : List Char) : (capitalizeWord w).length = (capitalizeInContext w).length := by
  cases w with
  | nil => rfl
  | cons c cs =>
    rw [capitalizeInContext_cons, capitalizeWord, List.length_append, List.length_append, toLower,
      length_toLowerAfter, length_toLowerAfter]

/-- Such a sigma is lowered as if it stood in the middle of the word. -/
theorem capitalizeWord_of_sigma {w : List Char} (h : SigmaBehindFirst w) :
    ∃ before after, capitalizeWord w = before ++ 'σ' :: after ∧ capitalizeInContext w = before ++ 'ς' :: after := by
  obtain ⟨c, ignored, rest, rfl, hc, hignored, hrest⟩ := h
  refine ⟨upperChar c ++ ignored.flatMap lowerChar, toLowerAfter ('Σ' :: ignored.reverse) rest, ?_, ?_⟩
  · rw [capitalizeWord, toLower, toLowerAfter_of_ignorable hignored not_caseIgnorable_sigma,
      lowerBetween_of_not_meetsCased (by rfl), lowerChar_sigma]
    simp
  · rw [capitalizeInContext_cons, toLowerAfter_of_ignorable hignored not_caseIgnorable_sigma]
    simp [lowerBetween, hc, hrest]

theorem capitalizeWord_of_not_sigma {w : List Char} (h : ¬ SigmaBehindFirst w) :
    capitalizeWord w = capitalizeInContext w := by
  cases w with
  | nil => rfl
  | cons c cs =>
    rw [capitalizeInContext_cons, capitalizeWord, toLower]
    congr 1
    cases hfind : cs.find? (fun d => !CaseData.caseIgnorable.contains d) with
    | none =>
      have hignored : ∀ d ∈ cs, CaseData.caseIgnorable.contains d = true := by simpa using hfind
      have halone (before : List Char) : toLowerAfter before cs = cs.flatMap lowerChar := by
        simpa [toLowerAfter] using toLowerAfter_append_of_ignorable hignored before []
      rw [halone, halone]
    | some d =>
      obtain ⟨hd, ignored, rest, rfl, hignored⟩ := List.find?_eq_some_iff_append.1 hfind
      simp only [Bool.not_eq_eq_eq_not, Bool.not_true, Bool.not_false] at hd hignored
      have hbetween : lowerBetween [c] d rest = lowerChar d := by
        refine lowerBetween_eq_lowerChar ?_
        rintro ⟨rfl, hc, hrest⟩
        exact h ⟨c, ignored, rest, rfl, hc, hignored, hrest⟩
      rw [toLowerAfter_of_ignorable hignored hd, toLowerAfter_of_ignorable hignored hd, hbetween,
        lowerBetween_of_not_meetsCased (by rfl)]

theorem capitalizeWord_eq_iff {w : List Char} :
    capitalizeWord w = capitalizeInContext w ↔ ¬ SigmaBehindFirst w := by
  constructor
  · intro h hsigma
    obtain ⟨before, after, hword, hcontext⟩ := capitalizeWord_of_sigma hsigma
    rw [hword, hcontext] at h
    simp at h
  · exact capitalizeWord_of_not_sigma

/-! ## Texts -/

/-- Pieces of the same lengths give the same text exactly if they are the same. -/
theorem flatMap_eq_flatMap_iff {α β : Type} {f g : α → List β} {xs : List α}
    (h : ∀ x ∈ xs, (f x).length = (g x).length) : xs.flatMap f = xs.flatMap g ↔ ∀ x ∈ xs, f x = g x := by
  induction xs with
  | nil => simp
  | cons x xs ih =>
    obtain ⟨hx, hxs⟩ := List.forall_mem_cons.1 h
    rw [List.flatMap_cons, List.flatMap_cons, List.forall_mem_cons, ← ih hxs]
    exact ⟨fun happend => List.append_inj happend hx, fun ⟨hfst, hrest⟩ => by rw [hfst, hrest]⟩

/-- A text is capitalized word by word, and the words keep the lower case that they have as a whole
exactly if no word has a capital sigma directly behind its first character and at its end. Such a sigma is
written as in the middle of a word, and nothing else differs. -/
theorem capitalize_in_context_iff (s : String) :
    (capitalize.apply s = String.ofList ((Words.split s.toList).flatMap capitalizeInContext) ↔
      ∀ w ∈ Words.split s.toList, ¬ SigmaBehindFirst w) ∧
    capitalize.apply s = String.ofList ((Words.split s.toList).flatMap capitalizeWord) ∧
    ∀ w, SigmaBehindFirst w → ∃ before after,
      capitalizeWord w = before ++ 'σ' :: after ∧ capitalizeInContext w = before ++ 'ς' :: after := by
  refine ⟨?_, rfl, fun w => capitalizeWord_of_sigma⟩
  rw [apply, applyChars, String.ofList_inj, flatMap_eq_flatMap_iff fun w _ => length_capitalizeWord w]
  simp only [capitalizeWord_eq_iff]

/-- The sigma of a word of two letters is not written as the one at the end of a word. -/
theorem capitalize_alpha_sigma :
    capitalize.apply "ΑΣ" = "Ασ" ∧ String.ofList ((Words.split "ΑΣ".toList).flatMap capitalizeInContext) = "Ας" ∧
    capitalize.apply "ΑΣ" ≠ String.ofList ((Words.split "ΑΣ".toList).flatMap capitalizeInContext) := by
  have htail : Words.tailLength 'Α' ['Σ'] = 1 := by decide +kernel
  have hsplit : Words.split "ΑΣ".toList = [['Α', 'Σ']] := by
    change Words.split ['Α', 'Σ'] = _
    rw [Words.split, htail]
    simp [Words.split]
  have halone : capitalize.apply "ΑΣ" = "Ασ" := by
    rw [apply, applyChars, hsplit]
    decide +kernel
  have hcontext : String.ofList ((Words.split "ΑΣ".toList).flatMap capitalizeInContext) = "Ας" := by
    rw [hsplit]
    decide +kernel
  refine ⟨halone, hcontext, ?_⟩
  rw [halone, hcontext]
  decide

end TextTransform

end MapLabel
