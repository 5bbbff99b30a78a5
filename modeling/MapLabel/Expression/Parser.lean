import MapLabel.Expression.Basic
/-!
Reading expressions.

An expression is a row of terms with plus signs between them, blanks allowed around each. A term is a
literal in single or double quotes, in which a backslash stands before any character to be taken as
it is, or the name of an attribute in brackets.

Each function returns what remains of the input. A failure carries the rest that begins where the
fault lies, from which its position follows.
-/

namespace MapLabel

/-- Why a text is no expression. -/
inductive ParseProblem where
  | expectedPlus (found : Char)
  | expectedTerm (found : Char)
  | endOfInput
  | openLiteral
  | blankName
  | nestedBracket
  | openAttribute
deriving DecidableEq, Repr

namespace ParseProblem

def message : ParseProblem → String
  | expectedPlus c => s!"expected '+' or end of input, found '{c}'"
  | expectedTerm c => s!"expected a literal or [attribute], found '{c}'"
  | endOfInput => "unexpected end of input"
  | openLiteral => "unterminated string literal"
  | blankName => "empty attribute name"
  | nestedBracket => "nested '[' in attribute name"
  | openAttribute => "unterminated attribute reference"

end ParseProblem

/-- A rejected expression: the input, the byte offset of the fault, and the fault. -/
structure ParseError where
  input : String
  position : Nat
  problem : ParseProblem
deriving DecidableEq, Repr

namespace ParseError

def message (e : ParseError) : String :=
  s!"Expression parse error at offset {e.position} in '{e.input}': {e.problem.message}"

end ParseError

namespace Expression.Parser

/-- A fault and the part of the input that begins with it. -/
structure Failure where
  problem : ParseProblem
  rest : List Char
deriving DecidableEq, Repr

/-- The content of a literal up to its closing quote, and the rest behind the quote. -/
def literal? (quote : Char) : List Char → Option (List Char × List Char)
  | [] => none
  | c :: cs =>
    if c = '\\' then
      match cs with
      | [] => none
      | escaped :: cs => (literal? quote cs).map fun (text, rest) => (escaped :: text, rest)
    else if c = quote then some ([], cs)
    else (literal? quote cs).map fun (text, rest) => (c :: text, rest)

/-- Whether the character ends the name of an attribute. -/
def isBracket (c : Char) : Bool := c = '[' || c = ']'

/-- The name of an attribute, behind its opening bracket `start`. -/
def field (start : List Char) (cs : List Char) : Except Failure (List Char × List Char) :=
  let name := Text.trim (cs.takeWhile (!isBracket ·))
  match cs.dropWhile (!isBracket ·) with
  | [] => .error ⟨.openAttribute, start⟩
  | ']' :: rest => if name = [] then .error ⟨.blankName, ']' :: rest⟩ else .ok (name, rest)
  | rest => .error ⟨.nestedBracket, rest⟩

/-- One term, and the rest behind it. -/
def term (cs : List Char) : Except Failure (Expression × List Char) :=
  match Text.trimLeft cs with
  | [] => .error ⟨.endOfInput, []⟩
  | c :: cs =>
    if c = '\'' ∨ c = '"' then
      match literal? c cs with
      | some (text, rest) => .ok (.literal (String.ofList text), rest)
      | none => .error ⟨.openLiteral, c :: cs⟩
    else if c = '[' then
      match field (c :: cs) cs with
      | .ok (name, rest) => .ok (.field (String.ofList name), rest)
      | .error e => .error e
    else .error ⟨.expectedTerm c, c :: cs⟩

/-! ## A term uses up input -/

theorem literal?_length {quote : Char} {cs text rest : List Char}
    (h : literal? quote cs = some (text, rest)) : rest.length < cs.length := by
  fun_induction literal? quote cs generalizing text with
  | case1 => simp at h
  | case2 => simp at h
  | case3 escaped cs ih =>
    obtain ⟨⟨t, r⟩, hr, he⟩ := Option.map_eq_some_iff.1 h
    obtain ⟨-, rfl⟩ := Prod.mk.inj he
    have := ih hr
    simp only [List.length_cons]; omega
  | case4 c cs =>
    simp only [Option.some.injEq, Prod.mk.injEq] at h
    simp [← h.2]
  | case5 c cs _ _ ih =>
    obtain ⟨⟨t, r⟩, hr, he⟩ := Option.map_eq_some_iff.1 h
    obtain ⟨-, rfl⟩ := Prod.mk.inj he
    have := ih hr
    simp only [List.length_cons]; omega

theorem length_dropWhile_le {p : Char → Bool} (cs : List Char) :
    (cs.dropWhile p).length ≤ cs.length := (List.dropWhile_suffix p).length_le

theorem field_length {start cs name rest : List Char}
    (h : field start cs = .ok (name, rest)) : rest.length < cs.length := by
  have hle := length_dropWhile_le (p := (!isBracket ·)) cs
  unfold field at h
  split at h
  · simp at h
  · rename_i r hr
    dsimp only at h
    split at h
    · simp at h
    · simp only [Except.ok.injEq, Prod.mk.injEq] at h
      rw [hr, List.length_cons] at hle
      rw [← h.2]; omega
  · simp at h

theorem term_length {cs rest : List Char} {e : Expression} (h : term cs = .ok (e, rest)) :
    rest.length < cs.length := by
  have hle : (Text.trimLeft cs).length ≤ cs.length := length_dropWhile_le cs
  unfold term at h
  split at h
  · simp at h
  · rename_i c ds hd
    rw [hd, List.length_cons] at hle
    split at h
    · split at h
      · rename_i hl
        simp only [Except.ok.injEq, Prod.mk.injEq] at h
        have := literal?_length hl
        rw [← h.2]; omega
      · simp at h
    · split at h
      · split at h
        · rename_i ha
          simp only [Except.ok.injEq, Prod.mk.injEq] at h
          have := field_length ha
          rw [← h.2]; omega
        · simp at h
      · simp at h

/-! ## Whole expressions -/

/-- The terms of the input, which must fill it. -/
def terms (cs : List Char) : Except Failure (List Expression) :=
  match _ht : term cs with
  | .error e => .error e
  | .ok (e, rest) =>
    match _hr : Text.trimLeft rest with
    | [] => .ok [e]
    | c :: cs' =>
      if c = '+' then (terms cs').map (e :: ·)
      else .error ⟨.expectedPlus c, c :: cs'⟩
termination_by cs.length
decreasing_by
  have h₁ := term_length _ht
  have h₂ : (Text.trimLeft rest).length ≤ rest.length := length_dropWhile_le rest
  rw [_hr, List.length_cons] at h₂
  omega

/-- One term stands for itself, several are a concatenation. -/
def ofTerms : List Expression → Expression
  | [e] => e
  | es => .concat es

/-- The number of bytes that the characters take. -/
def byteLength : List Char → Nat
  | [] => 0
  | c :: cs => c.utf8Size + byteLength cs

end Parser

/-- Reads an expression that fills the whole input. -/
def parse (input : String) : Except ParseError Expression :=
  match Parser.terms input.toList with
  | .ok es => .ok (Parser.ofTerms es)
  | .error e =>
    .error ⟨input, Parser.byteLength input.toList - Parser.byteLength e.rest, e.problem⟩

end Expression

end MapLabel
