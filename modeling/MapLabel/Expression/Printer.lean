import MapLabel.Expression.Basic
/-!
The written form of an expression. Nested concatenations are written flat.
-/

namespace MapLabel.Expression

/-- The characters of a literal, quotes and backslashes behind a backslash. -/
def escape : List Char → List Char
  | [] => []
  | c :: cs => if c = '\'' ∨ c = '\\' then '\\' :: c :: escape cs else c :: escape cs

mutual

/-- The characters of the written form. -/
def printChars : Expression → List Char
  | literal text => '\'' :: escape text.toList ++ ['\'']
  | field name => '[' :: name.toList ++ [']']
  | concat parts => printParts parts

def printParts : List Expression → List Char
  | [] => []
  | [p] => p.printChars
  | p :: q :: ps => p.printChars ++ ' ' :: '+' :: ' ' :: printParts (q :: ps)

end

def print (e : Expression) : String := String.ofList e.printChars

end MapLabel.Expression
