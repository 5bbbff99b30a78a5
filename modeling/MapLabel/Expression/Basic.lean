import MapLabel.Feature
import MapLabel.Number.Numeral
import MapLabel.Text.Blank
/-!
Label expressions: constant text, attributes of the feature, and concatenations of these.
-/

namespace MapLabel

/-- An expression that yields label text for a feature. -/
inductive Expression where
  | literal (text : String)
  | field (name : String)
  | concat (parts : List Expression)
deriving Repr

/-- Why an expression has no value on a feature. -/
inductive EvalError where
  | missing (name : String)
  /-- The attribute is a number without text. -/
  | malformed (name : String) (value : Float)
  | notNumeric (text : String)
deriving DecidableEq, Repr

namespace EvalError

def message : EvalError → String
  | missing name => s!"Attribute '{name}' is missing from the feature"
  | malformed name value =>
    s!"Attribute '{name}' is malformed: non-finite number {Number.text value}"
  | notNumeric text => s!"Expected a number, got '{text}'"

end EvalError

namespace Expression

/-! ## Equality -/

mutual

/-- Whether two expressions are built alike. -/
def same : Expression → Expression → Bool
  | literal s, literal t => s == t
  | field m, field n => m == n
  | concat ps, concat qs => sameParts ps qs
  | _, _ => false

def sameParts : List Expression → List Expression → Bool
  | [], [] => true
  | p :: ps, q :: qs => same p q && sameParts ps qs
  | _, _ => false

end

mutual

theorem eq_of_same : ∀ {e f : Expression}, same e f = true → e = f
  | literal _, literal _, h => by simp only [same, beq_iff_eq] at h; rw [h]
  | field _, field _, h => by simp only [same, beq_iff_eq] at h; rw [h]
  | concat _, concat _, h => by simp only [same] at h; rw [eq_of_sameParts h]
  | literal _, field _, h => by simp [same] at h
  | literal _, concat _, h => by simp [same] at h
  | field _, literal _, h => by simp [same] at h
  | field _, concat _, h => by simp [same] at h
  | concat _, literal _, h => by simp [same] at h
  | concat _, field _, h => by simp [same] at h

theorem eq_of_sameParts : ∀ {ps qs : List Expression}, sameParts ps qs = true → ps = qs
  | [], [], _ => rfl
  | _ :: _, _ :: _, h => by
    simp only [sameParts, Bool.and_eq_true] at h
    rw [eq_of_same h.1, eq_of_sameParts h.2]
  | [], _ :: _, h => by simp [sameParts] at h
  | _ :: _, [], h => by simp [sameParts] at h

end

mutual

theorem same_self : ∀ e : Expression, same e e = true
  | literal _ => by simp [same]
  | field _ => by simp [same]
  | concat ps => by simp [same, sameParts_self ps]

theorem sameParts_self : ∀ ps : List Expression, sameParts ps ps = true
  | [] => rfl
  | p :: ps => by simp [sameParts, same_self p, sameParts_self ps]

end

theorem same_iff {e f : Expression} : same e f = true ↔ e = f :=
  ⟨eq_of_same, fun h => h ▸ same_self e⟩

instance : DecidableEq Expression := fun _ _ => decidable_of_iff _ same_iff

/-! ## Evaluation -/

mutual

/-- The text of the expression on a feature. -/
def evaluate (f : Feature) : Expression → Except EvalError String
  | literal text => .ok text
  | field name =>
    match f.attribute? name with
    | none => .error (.missing name)
    | some value => value.labelText.mapError (.malformed name)
  | concat parts => evaluateParts f parts

/-- The texts of the parts one after the other. The first part without a value decides the error. -/
def evaluateParts (f : Feature) : List Expression → Except EvalError String
  | [] => .ok ""
  | p :: ps => do
    let text ← p.evaluate f
    let rest ← evaluateParts f ps
    return text ++ rest

end

/-- The number that the text of the expression spells, blanks around it aside. -/
def evaluateNumber (f : Feature) (e : Expression) : Except EvalError Float := do
  let text ← e.evaluate f
  match Number.Numeral.value? (Text.trim text.toList) with
  | some x => return x
  | none => throw (.notNumeric text)

/-! ## Attributes read -/

mutual

/-- The names of the attributes in the expression, in reading order and with repeats. -/
def attributes : Expression → List String
  | literal _ => []
  | field name => [name]
  | concat parts => attributesOfParts parts

def attributesOfParts : List Expression → List String
  | [] => []
  | p :: ps => p.attributes ++ attributesOfParts ps

end

/-- Each name once, in ascending order. -/
def sortNames (names : List String) : List String := names.eraseDups.mergeSort (· ≤ ·)

/-- The names of the attributes on which the expression depends. -/
def attributeNames (e : Expression) : List String := sortNames e.attributes

mutual

/-- Whether no attribute occurs in the expression. -/
def isConstant : Expression → Bool
  | literal _ => true
  | field _ => false
  | concat parts => allConstant parts

def allConstant : List Expression → Bool
  | [] => true
  | p :: ps => p.isConstant && allConstant ps

end

end Expression

end MapLabel
