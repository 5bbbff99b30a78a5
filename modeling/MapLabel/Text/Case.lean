import MapLabel.Text.CaseData
/-!
Upper and lower case of a text.

Upper case goes character by character. So does lower case, but for the capital sigma, which becomes
the final small sigma at the end of a word: a cased letter stands before it and none after it, where
characters that case ignores are looked through.
-/

namespace MapLabel.Text

/-- The case mapping of one character that a table of expansions and a table of runs describe. -/
def mapCase (expansions : List (Nat × List Nat)) (runs : List CaseData.Run) (c : Char) : List Char :=
  match expansions.lookup c.toNat with
  | some image => image.map Char.ofNat
  | none =>
    match runs.findSome? (·.map? c.toNat) with
    | some image => [Char.ofNat image]
    | none => [c]

/-- The upper case of one character. -/
def upperChar (c : Char) : List Char := mapCase CaseData.upperExpansions CaseData.upperRuns c

/-- The lower case of one character, out of context. -/
def lowerChar (c : Char) : List Char := mapCase CaseData.lowerExpansions CaseData.lowerRuns c

/-- The upper case of a text. -/
def toUpper (cs : List Char) : List Char := cs.flatMap upperChar

/-- Whether the first character that case does not ignore is cased. -/
def meetsCased (cs : List Char) : Bool :=
  match cs.dropWhile CaseData.caseIgnorable.contains with
  | [] => false
  | c :: _ => CaseData.cased.contains c

/-- The lower case of `rest`, where `before` is what precedes it, last character first. -/
def toLowerAfter (before : List Char) : List Char → List Char
  | [] => []
  | c :: rest =>
    let image :=
      if c = 'Σ' then if meetsCased before && !meetsCased rest then ['ς'] else ['σ']
      else lowerChar c
    image ++ toLowerAfter (c :: before) rest

/-- The lower case of a text. -/
def toLower (cs : List Char) : List Char := toLowerAfter [] cs

end MapLabel.Text
