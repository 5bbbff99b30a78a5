import MapLabel.Label.Content
/-!
# The flat reading of a content

A content is read as the row of its leaves, each with the patches above it. `render_leaves`: rendering
adds one run for each leaf in the order of the row, and one error for each leaf that cannot be
evaluated, which carries the number of that leaf's run. What a leaf adds depends on nothing but the
leaf itself and its place in the row.
-/

namespace MapLabel.Content

/-- What stands at the end of a branch. -/
inductive Tip where
  | text (e : Expression)
  | featureId

/-- A leaf of a content. -/
structure Leaf where
  /-- The patches on the way to the leaf, the outermost first. -/
  patches : List Style.Patch
  tip : Tip

namespace Leaf

/-- The leaf as it stands below one more patch. -/
def under (patch : Style.Patch) (l : Leaf) : Leaf := { l with patches := patch :: l.patches }

/-- The style of the run: the patches applied to a base style one after the other. -/
def style (l : Leaf) (base : Style) : Style := l.patches.foldl (fun s patch => patch.applyTo s) base

/-- The text of the run. -/
def text (base : Style) (f : Feature) (l : Leaf) : String :=
  match l.tip with
  | .text e =>
    match e.evaluate f with
    | .ok t => (l.style base).textTransform.apply t
    | .error _ => ""
  | .featureId => s!"#{f.id}"

def run (base : Style) (f : Feature) (l : Leaf) : Run := ⟨l.text base f, l.style base⟩

/-- The error of the leaf, if its text cannot be evaluated and its run has number `i`. -/
def error? (f : Feature) (i : Nat) (l : Leaf) : Option RunError :=
  match l.tip with
  | .text e =>
    match e.evaluate f with
    | .ok _ => none
    | .error cause => some ⟨i, e.print, cause⟩
  | .featureId => none

theorem run_under (patch : Style.Patch) (base : Style) (f : Feature) (l : Leaf) :
    (l.under patch).run base f = l.run (patch.applyTo base) f := rfl

theorem error?_under (patch : Style.Patch) (f : Feature) (i : Nat) (l : Leaf) :
    (l.under patch).error? f i = l.error? f i := rfl

theorem runIndex_error? {f : Feature} {i : Nat} {l : Leaf} {e : RunError} (h : l.error? f i = some e) :
    e.runIndex = i := by
  unfold error? at h
  split at h
  · split at h
    · cases h
    · cases h; rfl
  · cases h

end Leaf

mutual

/-- The leaves from left to right. -/
def leaves : Content → List Leaf
  | text e => [⟨[], .text e⟩]
  | list children => leavesOfAll children
  | styled patch child => child.leaves.map (Leaf.under patch)
  | featureId => [⟨[], .featureId⟩]

def leavesOfAll : List Content → List Leaf
  | [] => []
  | c :: cs => c.leaves ++ leavesOfAll cs

end

/-! ## The errors of a row of leaves -/

/-- The errors of leaves whose runs are numbered from `start`. -/
def errorsFrom (f : Feature) (start : Nat) (ls : List Leaf) : List RunError :=
  (ls.zipIdx start).filterMap fun (l, i) => l.error? f i

theorem errorsFrom_cons (f : Feature) (start : Nat) (l : Leaf) (ls : List Leaf) :
    errorsFrom f start (l :: ls) = (l.error? f start).toList ++ errorsFrom f (start + 1) ls := by
  cases h : l.error? f start <;> simp [errorsFrom, h]

theorem errorsFrom_append (f : Feature) (start : Nat) (ls ms : List Leaf) :
    errorsFrom f start (ls ++ ms) = errorsFrom f start ls ++ errorsFrom f (start + ls.length) ms := by
  simp only [errorsFrom, List.zipIdx_append, List.filterMap_append]

theorem errorsFrom_under (patch : Style.Patch) (f : Feature) (start : Nat) (ls : List Leaf) :
    errorsFrom f start (ls.map (Leaf.under patch)) = errorsFrom f start ls := by
  induction ls generalizing start with
  | nil => rfl
  | cons l ls ih => rw [List.map_cons, errorsFrom_cons, errorsFrom_cons, ih, Leaf.error?_under]

theorem le_runIndex {f : Feature} {start : Nat} {ls : List Leaf} {e : RunError}
    (h : e ∈ errorsFrom f start ls) : start ≤ e.runIndex := by
  induction ls generalizing start with
  | nil => simp [errorsFrom] at h
  | cons l ls ih =>
    rw [errorsFrom_cons, List.mem_append] at h
    rcases h with h | h
    · exact Nat.le_of_eq (Leaf.runIndex_error? (Option.mem_toList.1 h)).symm
    · exact Nat.le_of_succ_le (ih h)

/-- The errors with the number of a run are those of the leaf in its place. -/
theorem filter_errorsFrom (f : Feature) (start i : Nat) (ls : List Leaf) :
    (errorsFrom f start ls).filter (·.runIndex = start + i)
      = (ls[i]?.bind (Leaf.error? f (start + i))).toList := by
  induction ls generalizing start i with
  | nil => simp [errorsFrom]
  | cons l ls ih =>
    rw [errorsFrom_cons, List.filter_append]
    cases i with
    | zero =>
      have hhead : (l.error? f start).toList.filter (·.runIndex = start + 0) = (l.error? f start).toList := by
        refine List.filter_eq_self.2 fun e he => ?_
        simp [Leaf.runIndex_error? (Option.mem_toList.1 he)]
      have htail : (errorsFrom f (start + 1) ls).filter (·.runIndex = start + 0) = [] := by
        refine List.filter_eq_nil_iff.2 fun e he => ?_
        have := le_runIndex he
        simp only [decide_eq_true_eq]; omega
      rw [hhead, htail]; simp
    | succ i =>
      have hhead : (l.error? f start).toList.filter (·.runIndex = start + (i + 1)) = [] := by
        refine List.filter_eq_nil_iff.2 fun e he => ?_
        have := Leaf.runIndex_error? (Option.mem_toList.1 he)
        simp only [decide_eq_true_eq]; omega
      rw [hhead, List.nil_append, List.getElem?_cons_succ, show start + (i + 1) = start + 1 + i by omega]
      exact ih (start + 1) i

/-! ## Rendering adds the leaves -/

/-- The label with the runs and errors of a row of leaves behind its own. -/
def addLeaves (base : Style) (f : Feature) (label : Label) (ls : List Leaf) : Label where
  runs := label.runs ++ ls.map (Leaf.run base f)
  errors := label.errors ++ errorsFrom f label.size ls

theorem addLeaves_nil (base : Style) (f : Feature) (label : Label) : addLeaves base f label [] = label := by
  simp [addLeaves, errorsFrom]

theorem addLeaves_append (base : Style) (f : Feature) (label : Label) (ls ms : List Leaf) :
    addLeaves base f label (ls ++ ms) = addLeaves base f (addLeaves base f label ls) ms := by
  simp [addLeaves, errorsFrom_append, Label.size]

theorem addLeaves_under (patch : Style.Patch) (base : Style) (f : Feature) (label : Label) (ls : List Leaf) :
    addLeaves base f label (ls.map (Leaf.under patch)) = addLeaves (patch.applyTo base) f label ls := by
  have hrun : Leaf.run base f ∘ Leaf.under patch = Leaf.run (patch.applyTo base) f :=
    funext fun l => Leaf.run_under patch base f l
  simp only [addLeaves, List.map_map, hrun, errorsFrom_under]

theorem addLeaves_featureId (base : Style) (f : Feature) (label : Label) :
    addLeaves base f label [⟨[], .featureId⟩] = featureId.render base f label := by
  simp [addLeaves, errorsFrom, Leaf.run, Leaf.text, Leaf.style, Leaf.error?, render, Label.push]

theorem addLeaves_text (base : Style) (f : Feature) (label : Label) (e : Expression) :
    addLeaves base f label [⟨[], .text e⟩] = (text e).render base f label := by
  cases h : e.evaluate f <;>
    simp [addLeaves, errorsFrom, Leaf.run, Leaf.text, Leaf.style, Leaf.error?, render, h, Label.push, Label.report]

-- The style changes on the way down and the label on the way right, so both stay general.
mutual

theorem render_eq_addLeaves (base : Style) (f : Feature) (label : Label) :
    ∀ c : Content, c.render base f label = addLeaves base f label c.leaves
  | text e => (addLeaves_text base f label e).symm
  | list children => by rw [render, leaves, renderAll_eq_addLeaves base f label children]
  | styled patch child => by
    rw [render, leaves, addLeaves_under, render_eq_addLeaves (patch.applyTo base) f label child]
  | featureId => (addLeaves_featureId base f label).symm

theorem renderAll_eq_addLeaves (base : Style) (f : Feature) (label : Label) :
    ∀ cs : List Content, renderAll base f label cs = addLeaves base f label (leavesOfAll cs)
  | [] => by rw [renderAll, leavesOfAll, addLeaves_nil]
  | c :: cs => by
    rw [renderAll, leavesOfAll, addLeaves_append, render_eq_addLeaves base f label c,
      renderAll_eq_addLeaves base f _ cs]

end

/-- Rendering keeps what is in the label and adds the runs of the leaves in their order, and the errors
of the leaves that fail, each with the number of its run. So the run and the errors of a place in the
row are those of the leaf in that place, whatever happens to the others. -/
theorem render_leaves (c : Content) (base : Style) (f : Feature) (label : Label) :
    (c.render base f label).runs = label.runs ++ c.leaves.map (Leaf.run base f) ∧
    (c.render base f label).errors =
      label.errors ++ (c.leaves.zipIdx label.size).filterMap (fun (l, i) => l.error? f i) ∧
    ∀ i, (c.render base f label).runs[label.size + i]? = c.leaves[i]?.map (Leaf.run base f) ∧
      ((c.render base f label).errors.drop label.errors.length).filter (·.runIndex = label.size + i)
        = (c.leaves[i]?.bind (Leaf.error? f (label.size + i))).toList := by
  rw [render_eq_addLeaves]
  refine ⟨rfl, rfl, fun i => ⟨?_, ?_⟩⟩
  · simp [addLeaves, Label.size, List.getElem?_append_right]
  · simp only [addLeaves, List.drop_left]
    exact filter_errorsFrom f label.size i c.leaves

end MapLabel.Content
