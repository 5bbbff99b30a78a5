import MapLabel.Choice
import MapLabel.Config.Value
/-!
Reading and writing the values of style files.

A record is read from its entries by key, or from a list of its fields in their order. Unknown keys
are passed over. Missing fields keep the value that the record starts from, and missing items at the
end of a list are missing fields. Faults are met in the order of the keys, or of the list.
-/

namespace MapLabel.Config

/-- How values of a type are read and written. -/
structure Codec (α : Type) where
  read : Value → Except Refusal α
  write : α → Value

namespace Codec

/-- What a style file holds for a value. -/
def save {α : Type} (c : Codec α) (a : α) : Value := (c.write a).stored

def float : Codec Float where
  read
    | .number x => .ok x
    | _ => .error .shape
  write := .number

def bool : Codec Bool where
  read
    | .bool b => .ok b
    | _ => .error .shape
  write := .bool

def text : Codec String where
  read
    | .text s => .ok s
    | _ => .error .shape
  write := .text

/-- A text of one character. -/
def char : Codec Char where
  read
    | .text s =>
      match s.toList with
      | [c] => .ok c
      | _ => .error .shape
    | _ => .error .shape
  write c := .text (String.ofList [c])

def color : Codec Color where
  read
    | .text s => (Color.ofText s).mapError .value
    | _ => .error .shape
  write c := .text c.toHex

/-- A choice, by its exact name. The name may also be the only key of a record, with null under it. -/
def choice {α : Type} [Choice α] : Codec α where
  read
    | .text s | .record [(s, .null)] =>
      match Choice.ofName? s with
      | some a => .ok a
      | none => .error .shape
    | _ => .error .shape
  write a := .text (Choice.name a)

/-- A value that may be left out, for which null stands. -/
def option {α : Type} (c : Codec α) : Codec (Option α) where
  read
    | .null => .ok none
    | v => some <$> c.read v
  write
    | none => .null
    | some a => c.write a

def list {α : Type} (c : Codec α) : Codec (List α) where
  read
    | .list items => items.mapM c.read
    | _ => .error .shape
  write as := .list (as.map c.write)

end Codec

/-! ## Records -/

/-- One field of a record: its key, how its value is put into the record, and how it is got out. -/
structure Field (α : Type) where
  key : String
  read : Value → α → Except Refusal α
  write : α → Value

namespace Field

/-- The field with a given key, codec, getter and setter. -/
def of {α β : Type} (key : String) (c : Codec β) (get : α → β) (set : β → α → α) : Field α where
  key
  read v a := return set (← c.read v) a
  write a := c.write (get a)

end Field

namespace Codec

variable {α : Type}

/-- Reads the entries of a record into `a`. -/
def readEntries (fields : List (Field α)) (a : α) (entries : List (String × Value)) : Except Refusal α :=
  entries.foldlM (fun a (key, v) =>
    match fields.find? fun f => f.key == key with
    | some f => f.read v a
    | none => .ok a) a

/-- Reads the items of a list into the fields of `a` in their order. There may not be more items than
fields. -/
def readItems : List (Field α) → α → List Value → Except Refusal α
  | _, a, [] => .ok a
  | [], _, _ :: _ => .error .shape
  | f :: fields, a, v :: items => do readItems fields (← f.read v a) items

/-- A record of given fields. Those that are not read are as in `start`. -/
def record (fields : List (Field α)) (start : α) : Codec α where
  read
    | .record entries => readEntries fields start entries
    | .list items => readItems fields start items
    | _ => .error .shape
  write a := .record (fields.map fun f => (f.key, f.write a))

/-- A record of two numbers, neither of which may be missing. -/
def numberPair (key₁ key₂ : String) : Codec (Float × Float) :=
  let both := record
    [.of key₁ float (·.1.getD 0) fun x p => (some x, p.2),
      .of key₂ float (·.2.getD 0) fun x p => (p.1, some x)]
    ((none, none) : Option Float × Option Float)
  { read := fun v => do
      match ← both.read v with
      | (some x, some y) => return (x, y)
      | _ => throw .shape
    write := fun (x, y) => both.write (some x, some y) }

end Codec

end MapLabel.Config
