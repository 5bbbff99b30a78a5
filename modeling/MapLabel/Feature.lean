import MapLabel.Number.Text
/-!
Features of the map and the attributes by which they are labelled.
-/

namespace MapLabel

/-- The value of an attribute. -/
inductive AttributeValue where
  | null
  | bool (b : Bool)
  | integer (n : Int)
  | double (x : Float)
  | text (s : String)
deriving DecidableEq, Repr

namespace AttributeValue

/-- Values of one kind that are equal, doubles as numbers. -/
def sameValue : AttributeValue → AttributeValue → Bool
  | null, null => true
  | bool a, bool b => a == b
  | integer m, integer n => m == n
  | double x, double y => x == y
  | text s, text t => s == t
  | _, _ => false

/-- The text of the value in a label, or the number that has none because it is not finite. -/
def labelText : AttributeValue → Except Float String
  | null => .ok ""
  | bool b => .ok (if b then "true" else "false")
  | integer n => .ok (toString n)
  | double x => if x.isFinite then .ok (Number.text x) else .error x
  | text s => .ok s

/-- The value as it is shown in listings, strings in quotes. -/
def listed : AttributeValue → String
  | null => "null"
  | bool b => if b then "true" else "false"
  | integer n => toString n
  | double x => Number.text x
  | text s => s!"'{s}'"

end AttributeValue

/-- A map feature: its identifier and its attributes, of which the first with a name counts. -/
structure Feature where
  id : Nat := 0
  attributes : List (String × AttributeValue) := []
deriving DecidableEq, Repr

namespace Feature

/-- The value of the attribute with a name. -/
def attribute? (f : Feature) (name : String) : Option AttributeValue := f.attributes.lookup name

/-- The feature without the attribute of a name. -/
def erase (f : Feature) (name : String) : Feature :=
  { f with attributes := f.attributes.filter fun a => a.1 ≠ name }

/-- The feature with the attribute of a name set to a value. -/
def insert (f : Feature) (name : String) (value : AttributeValue) : Feature :=
  { f with attributes := (name, value) :: (f.erase name).attributes }

def size (f : Feature) : Nat := f.attributes.length

/-- Whether two features have one identifier and the same attributes, in any order. -/
def sameFeature (f g : Feature) : Bool :=
  f.id == g.id && f.size == g.size
    && f.attributes.all fun (name, value) =>
      match g.attribute? name with
      | some other => value.sameValue other
      | none => false

end Feature

end MapLabel
