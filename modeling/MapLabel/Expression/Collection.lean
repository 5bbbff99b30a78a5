import MapLabel.Expression.Basic
/-!
Sets of expressions, in which expressions that are built alike count once.
-/

namespace MapLabel

/-- A finite set of expressions, in the order in which they were first inserted. -/
structure ExpressionSet where
  toList : List Expression := []
  nodup : toList.Nodup := by simp

namespace ExpressionSet

instance : EmptyCollection ExpressionSet := ⟨{}⟩

instance : Membership Expression ExpressionSet := ⟨fun s e => e ∈ s.toList⟩

instance (e : Expression) (s : ExpressionSet) : Decidable (e ∈ s) :=
  inferInstanceAs (Decidable (e ∈ s.toList))

/-- The set with one more expression. -/
def insert (s : ExpressionSet) (e : Expression) : ExpressionSet :=
  if h : e ∈ s.toList then s
  else
    { toList := s.toList ++ [e]
      nodup := List.nodup_append.2 ⟨s.nodup, by simp, by simp; rintro a ha rfl; exact h ha⟩ }

/-- The set with all expressions of a list. -/
def insertAll (s : ExpressionSet) (es : List Expression) : ExpressionSet := es.foldl insert s

def size (s : ExpressionSet) : Nat := s.toList.length

def isEmpty (s : ExpressionSet) : Bool := s.toList.isEmpty

/-- The attributes on which some expression of the set depends. -/
def attributeNames (s : ExpressionSet) : List String :=
  Expression.sortNames (s.toList.flatMap Expression.attributes)

end ExpressionSet

end MapLabel
