import MapLabel.Proofs.Label.Leaves
import Mathlib.Data.List.Basic
/-!
# Upper case run by run

Upper case is made character by character, also where one character becomes several. So a label may be put
into upper case run by run or as one text (`text_render_uppercase`). Rendering comes to this by leaves: if
no patch on the way to a leaf sets a transform, the runs of the leaf in the two base styles differ in the
transform that their styles name and in the case of their texts, and in nothing else.
-/

namespace MapLabel

/-! ## Upper case in pieces -/

namespace TextTransform

theorem none_apply (s : String) : none.apply s = s := String.ofList_toList

theorem uppercase_append (s t : String) : uppercase.apply (s ++ t) = uppercase.apply s ++ uppercase.apply t := by
  rw [apply, apply, apply, ← String.ofList_append, String.toList_append]
  exact congrArg String.ofList List.flatMap_append

theorem uppercase_join (ss : List String) : uppercase.apply (String.join ss) = String.join (ss.map uppercase.apply) := by
  induction ss with
  | nil => rfl
  | cons s ss ih => rw [List.map_cons, String.join_cons, String.join_cons, uppercase_append, ih]

/-- Characters that are their own upper case stay. -/
theorem uppercase_eq_self {s : String} (h : ∀ c ∈ s.toList, Text.upperChar c = [c]) : uppercase.apply s = s := by
  have hchars : Text.toUpper s.toList = s.toList := by
    rw [Text.toUpper, List.flatMap_congr h, List.flatMap_singleton']
  rw [apply, applyChars, hchars, String.ofList_toList]

theorem upperChar_of_isDigit {c : Char} (h : c.isDigit) : Text.upperChar c = [c] := by
  have hdigits : ∀ n < 58, 48 ≤ n → Text.upperChar (Char.ofNat n) = [Char.ofNat n] := by decide +kernel
  simp only [Char.isDigit, Bool.and_eq_true, decide_eq_true_eq, ge_iff_le, UInt32.le_iff_toNat_le] at h
  have hc := hdigits c.toNat (Nat.lt_succ_of_le h.2) h.1
  rwa [Char.ofNat_toNat] at hc

/-- An identifier behind a number sign is its own upper case. -/
theorem uppercase_featureId (n : Nat) : uppercase.apply s!"#{n}" = s!"#{n}" := by
  have hchars : (s!"#{n}").toList = '#' :: Nat.toDigits 10 n := by
    rw [String.toList_append, Nat.toString_eq_ofList_toDigits, String.toList_ofList]
    rfl
  refine uppercase_eq_self fun c hc => ?_
  rw [hchars] at hc
  rcases List.mem_cons.1 hc with rfl | hc
  · decide +kernel
  · exact upperChar_of_isDigit (Nat.isDigit_of_mem_toDigits (by decide) (by decide) hc)

end TextTransform

/-! ## Styles that differ in their transform -/

namespace Style

def withTransform (s : Style) (t : TextTransform) : Style := { s with textTransform := t }

theorem textTransform_withTransform (s : Style) (t : TextTransform) : (s.withTransform t).textTransform = t := rfl

/-- The patches leave the transform as it is. -/
def Patch.KeepTransform (patches : List Patch) : Prop := ∀ p ∈ patches, p.textTransform = none

theorem Patch.applyTo_withTransform {p : Patch} (h : p.textTransform = none) (s : Style) (t : TextTransform) :
    p.applyTo (s.withTransform t) = (p.applyTo s).withTransform t := by
  simp only [applyTo, withTransform, h, Option.getD_none]

theorem Patch.KeepTransform.foldl_applyTo {patches : List Patch} (h : KeepTransform patches) (s : Style)
    (t : TextTransform) :
    patches.foldl (fun s p => p.applyTo s) (s.withTransform t) =
      (patches.foldl (fun s p => p.applyTo s) s).withTransform t := by
  induction patches generalizing s with
  | nil => rfl
  | cons p patches ih =>
    obtain ⟨hp, hpatches⟩ := List.forall_mem_cons.1 h
    rw [List.foldl_cons, List.foldl_cons, applyTo_withTransform hp, ih hpatches]

end Style

/-- The run in upper case, its style naming that transform. -/
def Run.uppercased (r : Run) : Run := ⟨TextTransform.uppercase.apply r.text, r.style.withTransform .uppercase⟩

/-! ## Labels -/

namespace Content

/-- Of a leaf below no transform, the run in upper case comes from the plain one. -/
theorem Leaf.run_uppercase {l : Leaf} (h : Style.Patch.KeepTransform l.patches) (base : Style) (f : Feature) :
    l.run (base.withTransform .uppercase) f = (l.run (base.withTransform .none) f).uppercased := by
  have hstyle : ∀ t, l.style (base.withTransform t) = (l.style base).withTransform t := h.foldl_applyTo base
  have htext : l.text (base.withTransform .uppercase) f =
      TextTransform.uppercase.apply (l.text (base.withTransform .none) f) := by
    obtain ⟨patches, e | _⟩ := l
    · cases he : e.evaluate f with
      | ok t => simp only [text, he, hstyle, Style.textTransform_withTransform, TextTransform.none_apply]
      | error =>
        simp only [text, he]
        rfl
    · exact (TextTransform.uppercase_featureId f.id).symm
  rw [run, run, Run.uppercased, htext, hstyle, hstyle]
  rfl

/-- Where no patch sets a transform, the label in upper case has the text of the plain label, put into upper
case as a whole. It has as many runs, in the same styles but for the transform, and the same errors. -/
theorem text_render_uppercase {c : Content} (h : ∀ l ∈ c.leaves, Style.Patch.KeepTransform l.patches) (base : Style)
    (f : Feature) :
    let plain := c.render (base.withTransform .none) f ∅
    let upper := c.render (base.withTransform .uppercase) f ∅
    upper.text = String.ofList (Text.toUpper plain.text.toList) ∧
    upper.size = plain.size ∧
    upper.errors = plain.errors ∧
    upper.runs.map Run.style = plain.runs.map fun r => r.style.withTransform .uppercase := by
  intro plain upper
  have hruns : upper.runs = plain.runs.map Run.uppercased := by
    simp only [upper, plain, render_eq_addLeaves, addLeaves]
    rw [List.map_append, List.map_map]
    exact congrArg _ (List.map_congr_left fun l hl => Leaf.run_uppercase (h l hl) base f)
  refine ⟨?_, ?_, ?_, ?_⟩
  · calc upper.text
      _ = String.join ((plain.runs.map Run.text).map TextTransform.uppercase.apply) := by
        rw [Label.text, hruns, List.map_map, List.map_map]
        rfl
      _ = TextTransform.uppercase.apply plain.text := (TextTransform.uppercase_join _).symm
  · rw [Label.size, hruns, List.length_map, Label.size]
  · simp only [upper, plain, render_eq_addLeaves]
    rfl
  · rw [hruns, List.map_map]
    rfl

/-- The name of a street and behind it, in small letters, a number that is missing. -/
def street : Content :=
  .list [.text (.field "name"), .styled { textSize := some 8 } (.list [.text (.literal " ﬂ."), .text (.field "number")])]

theorem text_render_uppercase_street :
    (∀ l ∈ street.leaves, Style.Patch.KeepTransform l.patches) ∧
    let f : Feature := { attributes := [("name", .text "Straße")] }
    let plain := street.render (Style.withTransform {} .none) f ∅
    let upper := street.render (Style.withTransform {} .uppercase) f ∅
    plain.text = "Straße ﬂ." ∧
    upper.text = "STRASSE FL." ∧
    upper.errors = [⟨2, "[number]", .missing "number"⟩] := by
  have hkeep : ∀ l ∈ street.leaves, Style.Patch.KeepTransform l.patches := by
    simp [street, leaves, leavesOfAll, Leaf.under, Style.Patch.KeepTransform]
  obtain ⟨htext, -, herrors, -⟩ := text_render_uppercase hkeep {} { attributes := [("name", .text "Straße")] }
  have hplain : (street.render (Style.withTransform {} .none)
      { attributes := [("name", .text "Straße")] } ∅).text = "Straße ﬂ." := by decide +kernel
  refine ⟨hkeep, hplain, ?_, ?_⟩
  · rw [htext, hplain]
    decide +kernel
  · rw [herrors]
    decide +kernel

end Content

end MapLabel
