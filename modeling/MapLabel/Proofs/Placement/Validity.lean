import MapLabel.Placement.Patch
import MapLabel.Proofs.Checks
/-!
# Validity

Styles, placements and patches are checked field by field, each in an order of its own. Here validity
is brought into one form, a usable value in every field, from which it follows that a patch to
something valid gives something valid exactly if the patch is valid (`valid_applyTo_iff`).
-/

namespace MapLabel

/-! ## Faults -/

namespace Fault

theorem first?_eq_none_iff {φ : Type} {checks : List (φ × Option Fault)} :
    first? checks = none ↔ ∀ c ∈ checks, c.2 = none := by
  simp [first?, List.findSome?_eq_none_iff]

variable {α : Type} {f : α → Option Fault} {x : α} {below : Option α}

/-- Over a usable value, what a patch leaves is usable exactly if what it sets is. -/
theorem getD_eq_none_iff (hx : f x = none) (set : Option α) : f (set.getD x) = none ↔ set.bind f = none := by
  cases set <;> simp [hx]

/-- The same for a value that may be absent. -/
theorem or_eq_none_iff (hbelow : below.bind f = none) (set : Option α) :
    (set.or below).bind f = none ↔ set.bind f = none := by
  cases set <;> simp [hbelow]

end Fault

/-! ## Styles -/

namespace Style

theorem validate_eq_ok_iff {s : Style} : s.validate = .ok () ↔ s.Valid := by
  unfold validate Valid
  split <;> simp_all

theorem valid_iff {s : Style} :
    s.Valid ↔ Fault.ofSize s.textSize = none ∧ Fault.ofNumber s.characterSpacing = none ∧
      Fault.ofNumber s.lineSpacing = none ∧ Fault.ofOpacity s.opacity = none ∧
      Fault.ofRadius s.haloRadius = none ∧ s.fontset.bind Fault.ofName = none := by
  simp [Valid, Fault.first?_eq_none_iff, checks]

namespace Patch

theorem validate_eq_ok_iff {p : Patch} : p.validate = .ok () ↔ p.Valid := by
  unfold validate Valid
  split <;> simp_all

theorem valid_iff {p : Patch} :
    p.Valid ↔ p.textSize.bind Fault.ofSize = none ∧ p.characterSpacing.bind Fault.ofNumber = none ∧
      p.lineSpacing.bind Fault.ofNumber = none ∧ p.opacity.bind Fault.ofOpacity = none ∧
      p.haloRadius.bind Fault.ofRadius = none ∧ p.fontset.bind Fault.ofName = none := by
  simp only [Valid, Fault.first?_eq_none_iff, checks, List.forall_mem_cons]
  -- A patch is checked for its fontset first, a style last.
  constructor
  · rintro ⟨hname, hsize, hchar, hline, hopacity, hradius, -⟩
    exact ⟨hsize, hchar, hline, hopacity, hradius, hname⟩
  · rintro ⟨hsize, hchar, hline, hopacity, hradius, hname⟩
    exact ⟨hname, hsize, hchar, hline, hopacity, hradius, by simp⟩

theorem valid_applyTo_iff {p : Patch} {s : Style} (hs : s.Valid) : (p.applyTo s).Valid ↔ p.Valid := by
  obtain ⟨hsize, hchar, hline, hopacity, hradius, hname⟩ := Style.valid_iff.1 hs
  rw [Style.valid_iff, valid_iff]
  simp only [applyTo, Fault.getD_eq_none_iff hsize, Fault.getD_eq_none_iff hchar, Fault.getD_eq_none_iff hline,
    Fault.getD_eq_none_iff hopacity, Fault.getD_eq_none_iff hradius, Fault.or_eq_none_iff hname]

end Patch

end Style

/-! ## Placements -/

namespace Placement

theorem validate_eq_ok_iff {p : Placement} : p.validate = .ok () ↔ p.Valid := by
  unfold validate Valid
  rw [← Style.validate_eq_ok_iff]
  cases p.style.validate with
  | error => simp
  | ok => cases Fault.first? p.checks <;> simp

/-- The parameters of a new placement are usable. -/
theorem valid_default : Valid {} := by decide

/-- The style of a valid placement may be replaced by a valid one. -/
theorem valid_withStyle {p : Placement} {s : Style} (hp : p.Valid) (hs : s.Valid) : Valid { p with style := s } :=
  ⟨hs, hp.2⟩

namespace Patch

theorem validate_eq_ok_iff {a : Patch} : a.validate = .ok () ↔ a.Valid := by
  unfold validate Valid
  rw [← Style.Patch.validate_eq_ok_iff]
  cases a.style.validate with
  | error => simp
  | ok => cases Fault.first? a.checks <;> simp

/-- A patch that sets nothing is valid. -/
theorem valid_empty : Valid ∅ := by decide

theorem valid_applyTo_iff {a : Patch} {p : Placement} (hp : p.Valid) : (a.applyTo p).Valid ↔ a.Valid := by
  obtain ⟨hstyle, hchecks⟩ := hp
  have hfields : Fault.first? (a.applyTo p).checks = none ↔ Fault.first? a.checks = none := by
    simp only [Fault.first?_eq_none_iff, Placement.checks, List.forall_mem_cons] at hchecks
    obtain ⟨hdx, hdy, hspacing, htolerance, hdistance, hpadding, hpath, hangle, hratio, hwidth, -⟩ := hchecks
    simp only [Fault.first?_eq_none_iff, Placement.checks, checks, applyTo, List.forall_mem_cons,
      Fault.getD_eq_none_iff (f := fun d : Displacement => Fault.ofNumber d.dx) hdx,
      Fault.getD_eq_none_iff (f := fun d : Displacement => Fault.ofNumber d.dy) hdy,
      Fault.getD_eq_none_iff hspacing, Fault.getD_eq_none_iff htolerance, Fault.getD_eq_none_iff hdistance,
      Fault.getD_eq_none_iff hpadding, Fault.getD_eq_none_iff hpath, Fault.getD_eq_none_iff hangle,
      Fault.getD_eq_none_iff hratio, Fault.getD_eq_none_iff hwidth]
  exact and_congr (Style.Patch.valid_applyTo_iff hstyle) hfields

/-- Checking a patch alone neither refuses one whose result would pass the check nor lets one through whose
result would not, whichever valid placement it is applied to. The same holds for styles. -/
theorem validate_alone_iff :
    (∀ (p : Placement) (a : Patch), p.validate = .ok () →
      (a.validate = .ok () ↔ (a.applyTo p).validate = .ok ())) ∧
    ∀ (s : Style) (o : Style.Patch), s.validate = .ok () →
      (o.validate = .ok () ↔ (o.applyTo s).validate = .ok ()) := by
  constructor
  · intro p a hp
    rw [validate_eq_ok_iff, Placement.validate_eq_ok_iff, valid_applyTo_iff (Placement.validate_eq_ok_iff.1 hp)]
  · intro s o hs
    rw [Style.Patch.validate_eq_ok_iff, Style.validate_eq_ok_iff,
      Style.Patch.valid_applyTo_iff (Style.validate_eq_ok_iff.1 hs)]

/-- A negative zero passes as a distance, a blank fontset does not pass as a name, before as after. -/
theorem validate_alone_iff_blankFontset :
    (({ labelSpacing := some (-0.0) } : Patch).validate = .ok () ∧
      (({ labelSpacing := some (-0.0) } : Patch).applyTo { labelSpacing := 300 }).validate = .ok ()) ∧
    ({ fontset := some " " } : Style.Patch).validate ≠ .ok () ∧
      (({ fontset := some " " } : Style.Patch).applyTo { fontset := some "names" }).validate ≠ .ok () := by
  have hspacing : ({ labelSpacing := some (-0.0) } : Patch).validate = .ok () := validate_eq_ok_iff.2 (by decide)
  have hfontset : ({ fontset := some " " } : Style.Patch).validate ≠ .ok () :=
    mt Style.Patch.validate_eq_ok_iff.1 (by decide)
  have hp : ({ labelSpacing := 300 } : Placement).validate = .ok () := Placement.validate_eq_ok_iff.2 (by decide)
  have hs : ({ fontset := some "names" } : Style).validate = .ok () := Style.validate_eq_ok_iff.2 (by decide)
  exact ⟨⟨hspacing, (validate_alone_iff.1 _ _ hp).1 hspacing⟩, hfontset,
    mt (validate_alone_iff.2 _ _ hs).2 hfontset⟩

end Patch

end Placement

end MapLabel
