import MapLabel.Proofs.Style.Drawable
import Mathlib.Data.List.ReduceOption
/-!
# The numbers in a placement

Every number in a placement, in its style and in the patches to them is checked, and no check lets a number
pass that is not finite. So all numbers in what is valid are finite (`numbers_finite`).
-/

namespace MapLabel

/-! ## The numbers in a value -/

def Displacement.numbers (d : Displacement) : List Float := [d.dx, d.dy]

def Dimensions.numbers (d : Dimensions) : List Float := [d.width, d.height]

def Style.numbers (s : Style) : List Float :=
  [s.textSize, s.characterSpacing, s.lineSpacing, s.opacity, s.haloRadius]

def Style.Patch.numbers (p : Style.Patch) : List Float :=
  [p.textSize, p.characterSpacing, p.lineSpacing, p.opacity, p.haloRadius].reduceOption

def Placement.numbers (p : Placement) : List Float :=
  p.style.numbers ++ p.displacement.numbers ++
    [p.labelSpacing, p.labelPositionTolerance, p.minimumDistance, p.minimumPadding, p.minimumPathLength,
      p.maxCharAngleDelta, p.textRatio, p.wrapWidth]

def Placement.Patch.numbers (a : Placement.Patch) : List Float :=
  a.style.numbers ++ a.displacement.toList.flatMap Displacement.numbers ++
    [a.labelSpacing, a.labelPositionTolerance, a.minimumDistance, a.minimumPadding, a.minimumPathLength,
      a.maxCharAngleDelta, a.textRatio, a.wrapWidth].reduceOption

/-! ## What the checks let pass -/

theorem forall_mem_reduceOption {α : Type} {P : α → Prop} {l : List (Option α)} :
    (∀ x ∈ l.reduceOption, P x) ↔ ∀ o ∈ l, ∀ x ∈ o, P x := by
  simp only [List.reduceOption_mem_iff]
  constructor
  · rintro h o ho x rfl
    exact h x ho
  · exact fun h x hx => h _ hx x rfl

namespace Fault

/-- Whatever a check of a number is after, it is after a finite one. -/
theorem isFinite_of_or_eq_none {x : Float} {fault : Option Fault} (h : (ofNumber x).or fault = none) : x.isFinite :=
  ofNumber_eq_none_iff.1 (Option.or_eq_none_iff.1 h).1

end Fault

open Fault (ofNumber_eq_none_iff isFinite_of_or_eq_none)

theorem Style.Valid.numbers_finite {s : Style} (h : s.Valid) : ∀ x ∈ s.numbers, x.isFinite := by
  obtain ⟨hsize, hchar, hline, hopacity, hradius, -⟩ := valid_iff.1 h
  simp only [numbers, List.forall_mem_cons]
  exact ⟨isFinite_of_or_eq_none hsize, ofNumber_eq_none_iff.1 hchar, ofNumber_eq_none_iff.1 hline,
    isFinite_of_or_eq_none hopacity, isFinite_of_or_eq_none hradius, List.forall_mem_nil _⟩

theorem Style.Patch.Valid.numbers_finite {p : Style.Patch} (h : p.Valid) : ∀ x ∈ p.numbers, x.isFinite := by
  obtain ⟨hsize, hchar, hline, hopacity, hradius, -⟩ := valid_iff.1 h
  simp only [Option.bind_eq_none_iff] at hsize hchar hline hopacity hradius
  simp only [numbers, forall_mem_reduceOption, List.forall_mem_cons]
  exact ⟨fun x hx => isFinite_of_or_eq_none (hsize x hx), fun x hx => ofNumber_eq_none_iff.1 (hchar x hx),
    fun x hx => ofNumber_eq_none_iff.1 (hline x hx), fun x hx => isFinite_of_or_eq_none (hopacity x hx),
    fun x hx => isFinite_of_or_eq_none (hradius x hx), List.forall_mem_nil _⟩

theorem Placement.Valid.numbers_finite {p : Placement} (h : p.Valid) : ∀ x ∈ p.numbers, x.isFinite := by
  obtain ⟨hstyle, hchecks⟩ := h
  simp only [Fault.first?_eq_none_iff, checks, List.forall_mem_cons] at hchecks
  obtain ⟨hdx, hdy, hspacing, htolerance, hdistance, hpadding, hpath, hangle, hratio, hwidth, -⟩ := hchecks
  simp only [numbers, Displacement.numbers, List.forall_mem_append, List.forall_mem_cons]
  exact ⟨⟨hstyle.numbers_finite, ofNumber_eq_none_iff.1 hdx, ofNumber_eq_none_iff.1 hdy, List.forall_mem_nil _⟩,
    isFinite_of_or_eq_none hspacing, isFinite_of_or_eq_none htolerance, isFinite_of_or_eq_none hdistance,
    isFinite_of_or_eq_none hpadding, isFinite_of_or_eq_none hpath, isFinite_of_or_eq_none hangle,
    isFinite_of_or_eq_none hratio, isFinite_of_or_eq_none hwidth, List.forall_mem_nil _⟩

theorem Placement.Patch.Valid.numbers_finite {a : Placement.Patch} (h : a.Valid) : ∀ x ∈ a.numbers, x.isFinite := by
  obtain ⟨hstyle, hchecks⟩ := h
  simp only [Fault.first?_eq_none_iff, checks, List.forall_mem_cons, Option.bind_eq_none_iff] at hchecks
  obtain ⟨hdx, hdy, hspacing, htolerance, hdistance, hpadding, hpath, hangle, hratio, hwidth, -⟩ := hchecks
  simp only [numbers, List.forall_mem_append, List.forall_mem_flatMap, Option.mem_toList, Displacement.numbers,
    forall_mem_reduceOption, List.forall_mem_cons]
  exact ⟨⟨hstyle.numbers_finite, fun d hd =>
      ⟨ofNumber_eq_none_iff.1 (hdx d hd), ofNumber_eq_none_iff.1 (hdy d hd), List.forall_mem_nil _⟩⟩,
    fun x hx => isFinite_of_or_eq_none (hspacing x hx), fun x hx => isFinite_of_or_eq_none (htolerance x hx),
    fun x hx => isFinite_of_or_eq_none (hdistance x hx), fun x hx => isFinite_of_or_eq_none (hpadding x hx),
    fun x hx => isFinite_of_or_eq_none (hpath x hx), fun x hx => isFinite_of_or_eq_none (hangle x hx),
    fun x hx => isFinite_of_or_eq_none (hratio x hx), fun x hx => isFinite_of_or_eq_none (hwidth x hx),
    List.forall_mem_nil _⟩

end MapLabel
