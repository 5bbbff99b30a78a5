import MapLabel.Style.Patch
import Mathlib.Data.List.Basic
/-!
# Styles under layers of patches

A style is the values of its fields, and a patch sets some of them. Patches that are applied one after the
other leave in each field the value set by the last one that sets it (`get_foldl_applyTo`), whatever they
do to the other fields.
-/

namespace MapLabel.Style

/-! ## Fields -/

/-- The values that a field can have. -/
def Field.Value : Field → Type
  | faceName => String
  | fontset => Option String
  | textSize | characterSpacing | lineSpacing | opacity | haloRadius => Float
  | wrapChar => Char
  | wrapBefore => Bool
  | textTransform => TextTransform
  | fill | haloFill => Color

/-- The value of a field. -/
def get (s : Style) : (k : Field) → k.Value
  | .faceName => s.faceName
  | .fontset => s.fontset
  | .textSize => s.textSize
  | .characterSpacing => s.characterSpacing
  | .lineSpacing => s.lineSpacing
  | .opacity => s.opacity
  | .wrapChar => s.wrapChar
  | .wrapBefore => s.wrapBefore
  | .textTransform => s.textTransform
  | .fill => s.fill
  | .haloFill => s.haloFill
  | .haloRadius => s.haloRadius

/-- The value to which the patch sets a field. A fontset is set to a name, never to none. -/
def Patch.get? (p : Patch) : (k : Field) → Option k.Value
  | .faceName => p.faceName
  | .fontset => p.fontset.map some
  | .textSize => p.textSize
  | .characterSpacing => p.characterSpacing
  | .lineSpacing => p.lineSpacing
  | .opacity => p.opacity
  | .wrapChar => p.wrapChar
  | .wrapBefore => p.wrapBefore
  | .textTransform => p.textTransform
  | .fill => p.fill
  | .haloFill => p.haloFill
  | .haloRadius => p.haloRadius

namespace Patch

/-- Each field is set for itself. -/
theorem get_applyTo (p : Patch) (s : Style) (k : Field) : (p.applyTo s).get k = (p.get? k).getD (s.get k) := by
  cases k with
  | fontset =>
    simp only [get, get?, applyTo]
    cases p.fontset <;> rfl
  | _ => rfl

/-! ## Rows of patches -/

/-- The value to which the last patch in the row that sets the field sets it. -/
def lastSet? (k : Field) (ps : List Patch) : Option k.Value := ps.reverse.findSome? (·.get? k)

theorem lastSet?_append (k : Field) (ps qs : List Patch) :
    lastSet? k (ps ++ qs) = (lastSet? k qs).or (lastSet? k ps) := by
  simp [lastSet?, List.findSome?_append]

theorem lastSet?_cons (k : Field) (p : Patch) (ps : List Patch) :
    lastSet? k (p :: ps) = (lastSet? k ps).or (p.get? k) := by
  simp [lastSet?, List.findSome?_append]

theorem lastSet?_eq_none {k : Field} {ps : List Patch} (h : ∀ p ∈ ps, p.get? k = none) : lastSet? k ps = none := by
  simpa [lastSet?, List.findSome?_eq_none_iff] using h

/-- A patch that sets the field, with none behind it that does. -/
theorem lastSet?_eq_some {k : Field} {v : k.Value} {outer inner : List Patch} {p : Patch} (hp : p.get? k = some v)
    (hinner : ∀ q ∈ inner, q.get? k = none) : lastSet? k (outer ++ p :: inner) = some v := by
  rw [lastSet?_append, lastSet?_cons, lastSet?_eq_none hinner, hp]
  rfl

/-- Only what the patches do to the field itself counts. -/
theorem lastSet?_congr {k : Field} {ps qs : List Patch} (h : ps.map (·.get? k) = qs.map (·.get? k)) :
    lastSet? k ps = lastSet? k qs := by
  have hmap : ∀ rs : List Patch, lastSet? k rs = (rs.map (·.get? k)).reverse.findSome? id := by
    intro rs
    rw [lastSet?, ← List.map_reverse, List.findSome?_map]
    rfl
  rw [hmap, hmap, h]

theorem get_foldl_applyTo (ps : List Patch) (s : Style) (k : Field) :
    (ps.foldl (fun s p => p.applyTo s) s).get k = (lastSet? k ps).getD (s.get k) := by
  induction ps generalizing s with
  | nil => rfl
  | cons p ps ih =>
    rw [List.foldl_cons, ih, lastSet?_cons, get_applyTo, Option.getD_or]

/-- No patch removes a fontset. -/
theorem fontset_foldl_applyTo_isSome_iff (ps : List Patch) (s : Style) :
    (ps.foldl (fun s p => p.applyTo s) s).fontset.isSome ↔ s.fontset.isSome ∨ ∃ p ∈ ps, p.fontset.isSome := by
  induction ps generalizing s with
  | nil => simp
  | cons p ps ih =>
    have hfirst : (p.applyTo s).fontset.isSome ↔ p.fontset.isSome ∨ s.fontset.isSome := by
      simp [applyTo, Option.isSome_or]
    rw [List.foldl_cons, ih, hfirst, List.exists_mem_cons_iff, or_assoc, or_left_comm]

end Patch

end MapLabel.Style
