import MapLabel.Proofs.Expression.Dependency
import MapLabel.Proofs.Label.Leaves
/-!
# What a label depends on

A content reads the expressions of its text leaves. Collecting finds exactly these (`mem_collect`), and
two features with one identifier that agree on what they mention get the same label (`render_congr`).
-/

namespace MapLabel.Content

/-! ## The expressions that a content reads -/

/-- The expression stands at a leaf of the content. -/
def Reads (c : Content) (e : Expression) : Prop := ∃ l ∈ c.leaves, l.tip = .text e

/-- The same of a row of contents. -/
def AllRead (cs : List Content) (e : Expression) : Prop := ∃ l ∈ leavesOfAll cs, l.tip = .text e

theorem reads_text {e e' : Expression} : (text e').Reads e ↔ e = e' := by
  simp [Reads, leaves, eq_comm]

theorem reads_list {cs : List Content} {e : Expression} : (list cs).Reads e ↔ AllRead cs e := by
  rw [Reads, leaves, AllRead]

theorem reads_styled {patch : Style.Patch} {c : Content} {e : Expression} :
    (styled patch c).Reads e ↔ c.Reads e := by
  rw [Reads, leaves]
  constructor
  · rintro ⟨_, hm, ht⟩
    obtain ⟨l, hl, rfl⟩ := List.mem_map.1 hm
    exact ⟨l, hl, ht⟩
  · rintro ⟨l, hl, ht⟩
    exact ⟨l.under patch, List.mem_map_of_mem hl, ht⟩

theorem not_reads_featureId {e : Expression} : ¬ featureId.Reads e := by
  simp [Reads, leaves]

theorem allRead_cons {c : Content} {cs : List Content} {e : Expression} :
    AllRead (c :: cs) e ↔ c.Reads e ∨ AllRead cs e := by
  simp [AllRead, Reads, leavesOfAll, or_and_right, exists_or]

-- The set grows from leaf to leaf, so it stays general.
mutual

theorem mem_collect {e : Expression} {s : ExpressionSet} :
    ∀ {c : Content}, e ∈ c.collect s ↔ e ∈ s ∨ c.Reads e
  | text e' => by rw [collect, ExpressionSet.mem_insert, reads_text]
  | list children => by rw [collect, mem_collectAll, reads_list]
  | styled patch child => by rw [collect, mem_collect, reads_styled]
  | featureId => by rw [collect, or_iff_left not_reads_featureId]

theorem mem_collectAll {e : Expression} {s : ExpressionSet} :
    ∀ {cs : List Content}, e ∈ collectAll s cs ↔ e ∈ s ∨ AllRead cs e
  | [] => by simp [collectAll, AllRead, leavesOfAll]
  | c :: cs => by rw [collectAll, mem_collectAll, mem_collect, allRead_cons, or_assoc]

end

/-! ## Labels of features that agree -/

namespace Leaf

variable {f g : Feature} {l : Leaf}

theorem run_congr (hid : f.id = g.id) (h : ∀ e, l.tip = .text e → e.evaluate f = e.evaluate g) (base : Style) :
    l.run base f = l.run base g := by
  have htext : l.text base f = l.text base g := by
    unfold text
    split
    · rename_i e he
      rw [h e he]
    · rw [hid]
  rw [run, run, htext]

theorem error?_congr (h : ∀ e, l.tip = .text e → e.evaluate f = e.evaluate g) (i : Nat) :
    l.error? f i = l.error? g i := by
  unfold error?
  split
  · rename_i e he
    rw [h e he]
  · rfl

end Leaf

theorem errorsFrom_congr {f g : Feature} {ls : List Leaf}
    (h : ∀ l ∈ ls, ∀ e, l.tip = .text e → e.evaluate f = e.evaluate g) (start : Nat) :
    errorsFrom f start ls = errorsFrom g start ls := by
  induction ls generalizing start with
  | nil => rfl
  | cons l ls ih =>
    have hl : l.error? f start = l.error? g start := Leaf.error?_congr (h l List.mem_cons_self) start
    rw [errorsFrom_cons, errorsFrom_cons, hl, ih fun l' hl' => h l' (List.mem_cons_of_mem l hl')]

theorem render_congr {f g : Feature} {c : Content} (hid : f.id = g.id)
    (h : ∀ e, c.Reads e → e.evaluate f = e.evaluate g) (base : Style) (label : Label) :
    c.render base f label = c.render base g label := by
  have hleaf : ∀ l ∈ c.leaves, ∀ e, l.tip = .text e → e.evaluate f = e.evaluate g := fun l hl e he =>
    h e ⟨l, hl, he⟩
  have hruns : c.leaves.map (Leaf.run base f) = c.leaves.map (Leaf.run base g) :=
    List.map_congr_left fun l hl => Leaf.run_congr hid (hleaf l hl) base
  rw [render_eq_addLeaves, render_eq_addLeaves, addLeaves, addLeaves, hruns, errorsFrom_congr hleaf]

end MapLabel.Content
