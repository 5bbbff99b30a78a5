import MapLabel.ValueError
/-!
Colours with eight bits a channel, and their hexadecimal notation.
-/

namespace MapLabel

/-- A colour and its opacity, not premultiplied. -/
structure Color where
  red : UInt8
  green : UInt8
  blue : UInt8
  alpha : UInt8 := 255
deriving DecidableEq, Repr

namespace Color

def transparent : Color := ⟨0, 0, 0, 0⟩
def black : Color := { red := 0, green := 0, blue := 0 }
def white : Color := { red := 255, green := 255, blue := 255 }
def pureRed : Color := { red := 255, green := 0, blue := 0 }
def darkGreen : Color := { red := 0, green := 128, blue := 0 }
def pureBlue : Color := { red := 0, green := 0, blue := 255 }
def gray : Color := { red := 128, green := 128, blue := 128 }

instance : Inhabited Color := ⟨black⟩

/-- The value of a hexadecimal digit. -/
def hexDigit? (c : Char) : Option UInt8 :=
  if '0' ≤ c ∧ c ≤ '9' then some (c.toNat - '0'.toNat).toUInt8
  else if 'a' ≤ c ∧ c ≤ 'f' then some (c.toNat - 'a'.toNat + 10).toUInt8
  else if 'A' ≤ c ∧ c ≤ 'F' then some (c.toNat - 'A'.toNat + 10).toUInt8
  else none

/-- A channel of two characters: two digits, or a plus sign and one digit. -/
def channel? (c d : Char) : Option UInt8 :=
  if c = '+' then hexDigit? d
  else do
    let high ← hexDigit? c
    let low ← hexDigit? d
    return high * 16 + low

/-- A channel of one digit, which stands for that digit twice. -/
def doubled? (c : Char) : Option UInt8 := do
  let v ← hexDigit? c
  return v * 16 + v

/-- Reads `#rgb`, `#rrggbb` or `#rrggbbaa`. Without an alpha channel the colour is opaque. -/
def ofHexChars? : List Char → Option Color
  | ['#', r, g, b] => do
    return { red := ← doubled? r, green := ← doubled? g, blue := ← doubled? b }
  | ['#', r, r', g, g', b, b'] => do
    return { red := ← channel? r r', green := ← channel? g g', blue := ← channel? b b' }
  | ['#', r, r', g, g', b, b', a, a'] => do
    return ⟨← channel? r r', ← channel? g g', ← channel? b b', ← channel? a a'⟩
  | _ => none

def ofHex? (s : String) : Option Color := ofHexChars? s.toList

/-- The colour that a text denotes, or the complaint that it denotes none. -/
def ofText (s : String) : Except ValueError Color :=
  match ofHex? s with
  | some c => .ok c
  | none => .error (.notHexColor s)

/-- A channel as two digits. -/
def channelDigits (v : UInt8) : List Char :=
  [Nat.digitChar (v.toNat / 16), Nat.digitChar (v.toNat % 16)]

/-- The hexadecimal notation, with an alpha channel only where the colour is not opaque. -/
def toHex (c : Color) : String :=
  String.ofList ('#' :: channelDigits c.red ++ channelDigits c.green ++ channelDigits c.blue
    ++ if c.alpha = 255 then [] else channelDigits c.alpha)

def withAlpha (c : Color) (alpha : UInt8) : Color := { c with alpha }

end Color

end MapLabel
