import MapLabel.Proofs.Expression.Canonical
import MapLabel.Proofs.Expression.Dependency
import MapLabel.Proofs.Checks
/-!
# Flattening

The written form of an expression does not show how its concatenations are nested. What is read back is
the row of its leaves. `reread_means_same`: this cannot be told from the expression itself by anything but
its form, as value, attributes and constancy depend on the leaves and their order alone.

An empty concatenation has no written form between plus signs, and names have to stand between brackets, so
both are excluded at every depth. Without this an expression need not be read back at all.
-/

namespace MapLabel.Expression

mutual

/-- The literals and attributes of the expression from left to right. -/
def leaves : Expression → List Expression
  | literal text => [literal text]
  | field name => [field name]
  | concat parts => leavesOfParts parts

def leavesOfParts : List Expression → List Expression
  | [] => []
  | p :: ps => p.leaves ++ leavesOfParts ps

end

/-- The concatenation of the leaves, or the leaf if it is the only one. -/
def flatten (e : Expression) : Expression :=
  match e.leaves with
  | [leaf] => leaf
  | leaves => concat leaves

/-- Attribute names are trimmed and could stand between brackets, and every concatenation has a part. -/
inductive Printable : Expression → Prop where
  | literal (text : String) : Printable (.literal text)
  | field {name : String} :
    name ≠ "" → Text.trim name.toList = name.toList → '[' ∉ name.toList → ']' ∉ name.toList →
      Printable (.field name)
  | concat {parts : List Expression} : parts ≠ [] → (∀ p ∈ parts, Printable p) → Printable (.concat parts)

/-! ## Leaves -/

mutual

theorem not_concat_of_mem_leaves :
    ∀ {e leaf : Expression}, leaf ∈ e.leaves → leaf.isConcat = false
  | literal _, _, h => by rw [List.mem_singleton.1 h]; rfl
  | field _, _, h => by rw [List.mem_singleton.1 h]; rfl
  | concat _, _, h => not_concat_of_mem_leavesOfParts h

theorem not_concat_of_mem_leavesOfParts :
    ∀ {ps : List Expression} {leaf : Expression}, leaf ∈ leavesOfParts ps → leaf.isConcat = false
  | _ :: _, _, h => (List.mem_append.1 h).elim not_concat_of_mem_leaves not_concat_of_mem_leavesOfParts

end

theorem leaves_of_not_concat {leaf : Expression} (h : leaf.isConcat = false) : leaf.leaves = [leaf] := by
  cases leaf with
  | literal => rfl
  | field => rfl
  | concat => cases h

theorem leavesOfParts_eq_self {ls : List Expression} (h : ∀ l ∈ ls, l.isConcat = false) : leavesOfParts ls = ls := by
  induction ls with
  | nil => rfl
  | cons l ls ih =>
    obtain ⟨hl, hls⟩ := List.forall_mem_cons.1 h
    rw [leavesOfParts, leaves_of_not_concat hl, ih hls, List.singleton_append]

theorem leaves_flatten (e : Expression) : e.flatten.leaves = e.leaves := by
  have hrow : ∀ l ∈ e.leaves, l.isConcat = false := fun _ => not_concat_of_mem_leaves
  unfold flatten
  split
  · rename_i leaf hleaf
    rw [hleaf] at hrow ⊢
    exact leaves_of_not_concat (hrow leaf List.mem_cons_self)
  · rw [leaves, leavesOfParts_eq_self hrow]

theorem leavesOfParts_eq_flatMap (ps : List Expression) : leavesOfParts ps = ps.flatMap leaves := by
  induction ps with
  | nil => rfl
  | cons p ps ih => rw [leavesOfParts, ih, List.flatMap_cons]

/-! ## What depends on the leaves alone -/

mutual

theorem evaluate_eq_mapM_leaves (f : Feature) :
    ∀ e : Expression, e.evaluate f = String.join <$> e.leaves.mapM (evaluate f)
  | literal text => by simp [evaluate, leaves, pure, Except.pure, Functor.map, Except.map, bind, Except.bind]
  | field name => by
    rw [leaves]
    cases h : (field name).evaluate f <;> simp [h, pure, Except.pure, Functor.map, Except.map, bind, Except.bind]
  | concat parts => by rw [evaluate, leaves, evaluateParts_eq_mapM_leaves f parts]

theorem evaluateParts_eq_mapM_leaves (f : Feature) :
    ∀ ps : List Expression, evaluateParts f ps = String.join <$> (leavesOfParts ps).mapM (evaluate f)
  | [] => rfl
  | p :: ps => by
    rw [evaluateParts, leavesOfParts, List.mapM_append, evaluate_eq_mapM_leaves f p,
      evaluateParts_eq_mapM_leaves f ps]
    cases p.leaves.mapM (evaluate f) with
    | error => rfl
    | ok => cases (leavesOfParts ps).mapM (evaluate f) <;> simp [bind, Except.bind]

end

mutual

theorem attributes_eq_flatMap_leaves : ∀ e : Expression, e.attributes = e.leaves.flatMap attributes
  | literal _ => by simp [leaves, attributes]
  | field _ => by simp [leaves, attributes]
  | concat parts => by rw [attributes, leaves, attributesOfParts_eq_flatMap_leaves parts]

theorem attributesOfParts_eq_flatMap_leaves :
    ∀ ps : List Expression, attributesOfParts ps = (leavesOfParts ps).flatMap attributes
  | [] => rfl
  | p :: ps => by
    rw [attributesOfParts, leavesOfParts, List.flatMap_append, ← attributes_eq_flatMap_leaves p,
      ← attributesOfParts_eq_flatMap_leaves ps]

end

/-! ## The written form -/

theorem printParts_append {ls ms : List Expression} (hls : ls ≠ []) (hms : ms ≠ []) :
    printParts (ls ++ ms) = printParts ls ++ ' ' :: '+' :: ' ' :: printParts ms := by
  induction ls with
  | nil => exact absurd rfl hls
  | cons l ls ih =>
    cases ls with
    | nil =>
      cases ms with
      | nil => exact absurd rfl hms
      | cons m ms => rfl
    | cons l' ls =>
      have htail := ih (List.cons_ne_nil l' ls)
      rw [List.cons_append] at htail
      simp [printParts, htail]

/-- A row of parts is written as the row of all their leaves, unless some part has none. -/
theorem printParts_leavesOfParts {ps : List Expression}
    (h : ∀ p ∈ ps, p.leaves ≠ [] ∧ p.printChars = printParts p.leaves) :
    printParts (leavesOfParts ps) = printParts ps := by
  induction ps with
  | nil => rfl
  | cons p ps ih =>
    obtain ⟨⟨hne, hp⟩, hps⟩ := List.forall_mem_cons.1 h
    cases ps with
    | nil => rw [leavesOfParts, leavesOfParts, List.append_nil, printParts, hp]
    | cons q ps =>
      have htail : leavesOfParts (q :: ps) ≠ [] := List.append_ne_nil_of_left_ne_nil (hps q List.mem_cons_self).1 _
      rw [leavesOfParts, printParts_append hne htail, ih hps, printParts, hp]

theorem printChars_flatten (e : Expression) : e.flatten.printChars = printParts e.leaves := by
  unfold flatten
  split
  · rename_i leaf hleaf
    rw [hleaf, printParts]
  · rw [printChars]

namespace Printable

variable {e : Expression}

theorem leaves_ne_nil (h : e.Printable) : e.leaves ≠ [] := by
  induction h with
  | literal => exact List.cons_ne_nil _ _
  | field => exact List.cons_ne_nil _ _
  | @concat parts hne _ ih =>
    cases parts with
    | nil => exact absurd rfl hne
    | cons p ps => exact List.append_ne_nil_of_left_ne_nil (ih p List.mem_cons_self) _

theorem printChars_eq (h : e.Printable) : e.printChars = printParts e.leaves := by
  induction h with
  | literal => rfl
  | field => rfl
  | concat _ hparts ih =>
    rw [printChars, leaves, printParts_leavesOfParts fun p hp => ⟨(hparts p hp).leaves_ne_nil, ih p hp⟩]

theorem canonical_of_mem_leaves (h : e.Printable) : ∀ leaf ∈ e.leaves, Canonical leaf := by
  induction h with
  | literal text =>
    intro leaf hleaf
    rw [List.mem_singleton.1 hleaf]
    exact .literal text
  | field hne htrim hopen hclose =>
    intro leaf hleaf
    rw [List.mem_singleton.1 hleaf]
    exact .field hne htrim hopen hclose
  | concat _ _ ih =>
    intro leaf hleaf
    rw [leaves, leavesOfParts_eq_flatMap] at hleaf
    obtain ⟨p, hp, hleaf⟩ := List.mem_flatMap.1 hleaf
    exact ih p hp leaf hleaf

theorem canonical_flatten (h : e.Printable) : Canonical e.flatten := by
  have hcanonical := h.canonical_of_mem_leaves
  unfold flatten
  split
  · rename_i leaf hleaf
    rw [hleaf] at hcanonical
    exact hcanonical leaf List.mem_cons_self
  · rename_i hmany
    refine .concat ?_ (fun _ => not_concat_of_mem_leaves) hcanonical
    match hleaves : e.leaves with
    | [] => exact absurd hleaves h.leaves_ne_nil
    | [leaf] => exact absurd hleaves (hmany leaf)
    | _ :: _ :: _ => exact Nat.le_add_left 2 _

/-- What is written for an expression is what is written for its flattening, which is canonical. -/
theorem parse_print_eq_flatten (h : e.Printable) : parse e.print = .ok e.flatten := by
  have hprint : e.flatten.print = e.print := by
    rw [print, print, printChars_flatten, h.printChars_eq]
  rw [← hprint]
  exact parse_print h.canonical_flatten

end Printable

/-! ## Reading what was written -/

/-- The leaves are evaluated from left to right, and the first one without a value decides the error. -/
theorem evaluate_eq_error_iff_leaves {e : Expression} {f : Feature} {cause : EvalError} :
    e.evaluate f = .error cause ↔ FirstFailure (evaluate f) e.leaves cause := by
  rw [evaluate_eq_mapM_leaves, ← mapM_eq_error_iff]
  cases e.leaves.mapM (evaluate f) <;> simp [Functor.map, Except.map]

theorem evaluate_flatten (e : Expression) (f : Feature) : e.flatten.evaluate f = e.evaluate f := by
  rw [evaluate_eq_mapM_leaves, evaluate_eq_mapM_leaves, leaves_flatten]

theorem attributes_flatten (e : Expression) : e.flatten.attributes = e.attributes := by
  rw [attributes_eq_flatMap_leaves, leaves_flatten, ← attributes_eq_flatMap_leaves]

theorem isConstant_flatten (e : Expression) : e.flatten.isConstant = e.isConstant := by
  rw [Bool.eq_iff_iff, isConstant_iff, isConstant_iff, attributes_flatten]

/-- An expression is read back as the row of its leaves, however its concatenations are nested. On every
feature this has the same text and the same number, or else fails for the same cause, which is that of the
leftmost leaf without a value. It reads the same attributes and is constant if the expression is. -/
theorem reread_means_same {e : Expression} (h : e.Printable) :
    parse e.print = .ok e.flatten ∧
    (∀ f : Feature, e.flatten.evaluate f = e.evaluate f ∧ e.flatten.evaluateNumber f = e.evaluateNumber f ∧
      ∀ cause, e.evaluate f = .error cause ↔ FirstFailure (evaluate f) e.leaves cause) ∧
    e.flatten.attributeNames = e.attributeNames ∧ e.flatten.isConstant = e.isConstant := by
  refine ⟨h.parse_print_eq_flatten, fun f => ⟨evaluate_flatten e f, ?_, fun _ => evaluate_eq_error_iff_leaves⟩, ?_,
    isConstant_flatten e⟩
  · rw [evaluateNumber, evaluateNumber, evaluate_flatten]
  · rw [attributeNames, attributeNames, attributes_flatten]

/-- A name in groups of one and of several parts, with a literal in which a plus sign and a bracket stand. -/
theorem reread_means_same_groupedName :
    let e : Expression :=
      .concat [.concat [.concat [.field "name"]], .concat [.literal "' + [", .concat [.field "ref", .literal ""]]]
    let flat : Expression := .concat [.field "name", .literal "' + [", .field "ref", .literal ""]
    let f : Feature := { attributes := [("name", .text "A 1"), ("ref", .double (0 / 0))] }
    e.Printable ∧ parse e.print = .ok flat ∧ flat.evaluate f = e.evaluate f ∧
      e.evaluate f = .error (.malformed "ref" (0 / 0)) := by
  intro e flat f
  have hname : (field "name").Printable := .field (by decide) (by decide) (by decide) (by decide)
  have href : (field "ref").Printable := .field (by decide) (by decide) (by decide) (by decide)
  have hone : (concat [concat [field "name"]]).Printable :=
    .concat (by simp) (by simpa using .concat (by simp) (by simpa using hname))
  have htwo : (concat [field "ref", literal ""]).Printable := .concat (by simp) (by simp [href, Printable.literal])
  have he : e.Printable :=
    .concat (by simp) (by simpa using ⟨hone, .concat (by simp) (by simpa using ⟨.literal _, htwo⟩)⟩)
  obtain ⟨hparse, hvalue, -, -⟩ := reread_means_same he
  obtain ⟨hsame, -, hcause⟩ := hvalue f
  -- The name has a value and so has the literal, so it is the reference that fails.
  refine ⟨he, hparse, hsame, (hcause _).2 ⟨[.field "name", .literal "' + ["], .field "ref", [.literal ""], rfl, ?_, rfl⟩⟩
  simpa using ⟨⟨"A 1", rfl⟩, "' + [", rfl⟩

end MapLabel.Expression
