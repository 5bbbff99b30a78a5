import MapLabel.ValueError
import MapLabel.Placement.Basic
/-!
The data model of style files.
-/

namespace MapLabel.Config

/-- A value as it stands in a style file. The entries of a record are in ascending order of their
keys, and no key occurs twice. -/
inductive Value where
  | null
  | bool (b : Bool)
  | number (x : Float)
  | text (s : String)
  | list (items : List Value)
  | record (entries : List (String × Value))
deriving Repr

namespace Value

mutual

/-- The value as a style file can hold it: null in place of a number that is not finite, and entries in the
order of their keys. -/
def stored : Value → Value
  | number x => if x.isFinite then .number x else .null
  | list items => .list (storedItems items)
  | record entries => .record ((storedEntries entries).mergeSort fun e f => e.1 ≤ f.1)
  | v => v

def storedItems : List Value → List Value
  | [] => []
  | v :: items => v.stored :: storedItems items

def storedEntries : List (String × Value) → List (String × Value)
  | [] => []
  | (key, v) :: entries => (key, v.stored) :: storedEntries entries

end

end Value

/-- Why a value was refused. -/
inductive Refusal where
  /-- The value has not the form that is wanted. -/
  | shape
  | value (e : ValueError)
  | placement (e : PlacementError)
deriving DecidableEq, Repr

namespace Refusal

/-- The complaint, where there is more to say than that the form is wrong. -/
def message? : Refusal → Option String
  | shape => none
  | value e => some e.message
  | placement e => some e.message

end Refusal

end MapLabel.Config
