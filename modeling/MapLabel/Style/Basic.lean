import MapLabel.Color
import MapLabel.Fault
import MapLabel.Text.Transform
/-!
The appearance of a run of text.
-/

namespace MapLabel

/-- The appearance of a run, every field of it settled. -/
structure Style where
  /-- An empty name stands for the renderer's own face. -/
  faceName : String := ""
  /-- A named set of fonts in place of the face. -/
  fontset : Option String := none
  textSize : Float := 10
  characterSpacing : Float := 0
  lineSpacing : Float := 0
  opacity : Float := 1
  /-- Where lines may be broken. -/
  wrapChar : Char := ' '
  wrapBefore : Bool := false
  textTransform : TextTransform := .none
  fill : Color := .black
  haloFill : Color := .white
  haloRadius : Float := 0
deriving DecidableEq, Repr

namespace Style

instance : Inhabited Style := ⟨{}⟩

/-- The fields of a style. -/
inductive Field where
  | faceName
  | fontset
  | textSize
  | characterSpacing
  | lineSpacing
  | opacity
  | wrapChar
  | wrapBefore
  | textTransform
  | fill
  | haloFill
  | haloRadius
deriving DecidableEq, Repr

namespace Field

/-- The key in style files. -/
def key : Field → String
  | faceName => "face_name"
  | fontset => "fontset"
  | textSize => "text_size"
  | characterSpacing => "character_spacing"
  | lineSpacing => "line_spacing"
  | opacity => "opacity"
  | wrapChar => "wrap_char"
  | wrapBefore => "wrap_before"
  | textTransform => "text_transform"
  | fill => "fill"
  | haloFill => "halo_fill"
  | haloRadius => "halo_radius"

end Field

/-- The default style in a given font and colour. -/
def ofFont (faceName : String) (textSize : Float) (fill : Color) : Style := { faceName, textSize, fill }

/-- Whether all fields are equal, numbers compared as numbers. -/
def sameStyle (s t : Style) : Bool :=
  s.faceName == t.faceName && s.fontset == t.fontset && s.textSize == t.textSize
    && s.characterSpacing == t.characterSpacing && s.lineSpacing == t.lineSpacing
    && s.opacity == t.opacity && s.wrapChar == t.wrapChar && s.wrapBefore == t.wrapBefore
    && s.textTransform == t.textTransform && s.fill == t.fill && s.haloFill == t.haloFill
    && s.haloRadius == t.haloRadius

/-- The checks of a style, in the order in which faults are reported. -/
def checks (s : Style) : List (Field × Option Fault) :=
  [(.textSize, Fault.ofSize s.textSize),
    (.characterSpacing, Fault.ofNumber s.characterSpacing),
    (.lineSpacing, Fault.ofNumber s.lineSpacing),
    (.opacity, Fault.ofOpacity s.opacity),
    (.haloRadius, Fault.ofRadius s.haloRadius),
    (.fontset, s.fontset.bind Fault.ofName)]

end Style

/-- A style, or a patch to one, with an unusable value in some field. -/
inductive StyleError where
  | invalid (field : Style.Field) (fault : Fault)
  | malformedPatch (field : Style.Field) (fault : Fault)
deriving DecidableEq, Repr

namespace StyleError

def message : StyleError → String
  | invalid field fault => s!"Invalid glyph style field '{field.key}': {fault.message}"
  | malformedPatch field fault => s!"Malformed override for '{field.key}': {fault.message}"

end StyleError

namespace Style

/-- Fails with the first fault of the style. -/
def validate (s : Style) : Except StyleError Unit :=
  match Fault.first? s.checks with
  | some (field, fault) => .error (.invalid field fault)
  | none => .ok ()

/-- A style is valid when every field has a usable value. -/
def Valid (s : Style) : Prop := Fault.first? s.checks = none

instance (s : Style) : Decidable s.Valid := inferInstanceAs (Decidable (_ = _))

end Style

end MapLabel
