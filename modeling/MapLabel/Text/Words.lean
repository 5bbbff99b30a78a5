import MapLabel.Text.BreakData
/-!
Cutting a text at its word boundaries.

A word is read from its first character on. `Phase` says what the word so far ends in, and `tail`
how many of the following characters still belong to it. Characters of the class `ignorable` never
end a word and are looked through. After a character that may stand inside a word, such as a
point between digits, the word goes on only if a fitting character follows, so `tail` answers `none`
where one is required and missing.
-/

namespace MapLabel.Text

/-- What a character means for word boundaries. -/
inductive BreakClass where
  | carriageReturn
  | lineFeed
  | newline
  | letter
  | hebrewLetter
  | numeric
  | katakana
  /-- Joins letters, digits and katakana, such as the low line. -/
  | connector
  | midLetter
  | midNum
  /-- Stands inside words and numbers alike, such as the full stop. -/
  | midNumLet
  | singleQuote
  | doubleQuote
  | regional
  | space
  /-- Attaches to the character before it. -/
  | ignorable
  /-- The zero width joiner, which is ignorable too. -/
  | joiner
  | other
deriving DecidableEq, Repr

namespace BreakClass

/-- The class of a character. -/
def ofChar (c : Char) : BreakClass :=
  if c = '\r' then carriageReturn
  else if c = '\n' then lineFeed
  else if c.toNat = 0x0B ∨ c.toNat = 0x0C ∨ c.toNat = 0x85 ∨ c.toNat = 0x2028 ∨ c.toNat = 0x2029 then
    newline
  else if c = '\'' then singleQuote
  else if c = '"' then doubleQuote
  else if c.toNat = 0x200D then joiner
  else if BreakData.letter.contains c then letter
  else if BreakData.numeric.contains c then numeric
  else if BreakData.space.contains c then space
  else if BreakData.extend.contains c || BreakData.format.contains c then ignorable
  else if BreakData.hebrewLetter.contains c then hebrewLetter
  else if BreakData.katakana.contains c then katakana
  else if BreakData.connector.contains c then connector
  else if BreakData.midLetter.contains c then midLetter
  else if BreakData.midNum.contains c then midNum
  else if BreakData.midNumLet.contains c then midNumLet
  else if BreakData.regional.contains c then regional
  else other

end BreakClass

namespace Words

/-- What the word so far ends in, ignorable characters aside. -/
inductive Phase where
  /-- A line break, after which nothing belongs to the word. -/
  | line
  /-- A carriage return, which only a line feed may follow. -/
  | carriageReturn
  | letter
  | hebrewLetter
  | numeric
  | katakana
  | connector
  /-- An odd regional indicator, which may form a pair with the next one. -/
  | regional
  | space
  /-- A Hebrew letter and a single quote. -/
  | hebrewQuote
  /-- A character inside a word that only a letter can follow. -/
  | wantsLetter
  | wantsHebrewLetter
  | wantsNumeric
  /-- Anything that only ignorable characters can follow. -/
  | closed
deriving DecidableEq, Repr

/-- The phase after the first character of a word. -/
def start : BreakClass → Phase
  | .carriageReturn => .carriageReturn
  | .lineFeed | .newline => .line
  | .letter => .letter
  | .hebrewLetter => .hebrewLetter
  | .numeric => .numeric
  | .katakana => .katakana
  | .connector => .connector
  | .regional => .regional
  | .space => .space
  | _ => .closed

/-- The phase after one more character that is not ignorable, or `none` if it starts a new word. -/
def next : Phase → BreakClass → Option Phase
  | .carriageReturn, .lineFeed => some .line
  | .letter, k | .hebrewLetter, k => match k with
    | .letter => some .letter
    | .hebrewLetter => some .hebrewLetter
    | .numeric => some .numeric
    | .connector => some .connector
    | .midLetter | .midNumLet | .singleQuote => some .wantsLetter
    | _ => none
  | .numeric, k => match k with
    | .numeric => some .numeric
    | .letter => some .letter
    | .hebrewLetter => some .hebrewLetter
    | .connector => some .connector
    | .midNum | .midNumLet | .singleQuote => some .wantsNumeric
    | _ => none
  | .katakana, .katakana => some .katakana
  | .katakana, .connector => some .connector
  | .connector, k => match k with
    | .connector => some .connector
    | .letter => some .letter
    | .hebrewLetter => some .hebrewLetter
    | .numeric => some .numeric
    | .katakana => some .katakana
    | _ => none
  | .regional, .regional => some .closed
  | .space, .space => some .space
  | .hebrewQuote, .letter | .wantsLetter, .letter => some .letter
  | .hebrewQuote, .hebrewLetter | .wantsLetter, .hebrewLetter => some .hebrewLetter
  | .wantsHebrewLetter, .hebrewLetter => some .hebrewLetter
  | .wantsNumeric, .numeric => some .numeric
  | _, _ => none

/-- The phase after one more character: a quote that follows a Hebrew letter is a case of its own. -/
def advance (p : Phase) (k : BreakClass) : Option Phase :=
  match p, k with
  | .hebrewLetter, .singleQuote => some .hebrewQuote
  | .hebrewLetter, .doubleQuote => some .wantsHebrewLetter
  | p, k => next p k

/-- The phase after an ignorable character: a run of spaces ends there. -/
def skip : Phase → Phase
  | .space => .closed
  | p => p

/-- Whether the word may end in this phase. -/
def Phase.complete : Phase → Bool
  | .wantsLetter | .wantsHebrewLetter | .wantsNumeric => false
  | _ => true

/-- How many of the characters belong to the word, or `none` if it may not end where it has to.
`joined` says that the character before is a zero width joiner, to which a pictograph attaches. -/
def tail (p : Phase) (joined : Bool) : List Char → Option Nat
  | [] => if p.complete then some 0 else none
  | c :: cs =>
    let k := BreakClass.ofChar c
    let stop := if p.complete then some 0 else none
    if p = .line then some 0
    else if p ≠ .carriageReturn ∧ (k = .ignorable ∨ k = .joiner) then
      (tail (skip p) (k = .joiner) cs).map (· + 1)
    else if joined ∧ BreakData.pictographic.contains c then (tail .closed false cs).map (· + 1)
    else
      match advance p k with
      | none => stop
      | some q =>
        match tail q false cs with
        | some n => some (n + 1)
        | none => stop

/-- How many characters follow the first one in a word. -/
def tailLength (c : Char) (cs : List Char) : Nat :=
  let k := BreakClass.ofChar c
  (tail (start k) (k = .joiner) cs).getD 0

/-- Cuts a text at every word boundary. -/
def split : List Char → List (List Char)
  | [] => []
  | c :: cs =>
    let n := tailLength c cs
    (c :: cs.take n) :: split (cs.drop n)
termination_by cs => cs.length
decreasing_by simp only [List.length_cons, List.length_drop]; omega

end Words

end MapLabel.Text
