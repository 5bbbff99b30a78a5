import MapLabel.Config.Codec
import MapLabel.Style.Patch
/-!
Styles and style patches in style files. The two have the same keys in the same order. In a patch every
field may be null.
-/

namespace MapLabel.Config

open Codec

/-- The fields of a style. -/
def styleFields : List (Field Style) :=
  [.of Style.Field.faceName.key text (·.faceName) fun x s => { s with faceName := x },
    .of Style.Field.fontset.key (option text) (·.fontset) fun x s => { s with fontset := x },
    .of Style.Field.textSize.key float (·.textSize) fun x s => { s with textSize := x },
    .of Style.Field.characterSpacing.key float (·.characterSpacing)
      fun x s => { s with characterSpacing := x },
    .of Style.Field.lineSpacing.key float (·.lineSpacing) fun x s => { s with lineSpacing := x },
    .of Style.Field.opacity.key float (·.opacity) fun x s => { s with opacity := x },
    .of Style.Field.wrapChar.key char (·.wrapChar) fun x s => { s with wrapChar := x },
    .of Style.Field.wrapBefore.key bool (·.wrapBefore) fun x s => { s with wrapBefore := x },
    .of Style.Field.textTransform.key choice (·.textTransform) fun x s => { s with textTransform := x },
    .of Style.Field.fill.key color (·.fill) fun x s => { s with fill := x },
    .of Style.Field.haloFill.key color (·.haloFill) fun x s => { s with haloFill := x },
    .of Style.Field.haloRadius.key float (·.haloRadius) fun x s => { s with haloRadius := x }]

def style : Codec Style := record styleFields {}

/-- The fields of a style patch. -/
def stylePatchFields : List (Field Style.Patch) :=
  [.of Style.Field.faceName.key (option text) (·.faceName) fun x p => { p with faceName := x },
    .of Style.Field.fontset.key (option text) (·.fontset) fun x p => { p with fontset := x },
    .of Style.Field.textSize.key (option float) (·.textSize) fun x p => { p with textSize := x },
    .of Style.Field.characterSpacing.key (option float) (·.characterSpacing)
      fun x p => { p with characterSpacing := x },
    .of Style.Field.lineSpacing.key (option float) (·.lineSpacing)
      fun x p => { p with lineSpacing := x },
    .of Style.Field.opacity.key (option float) (·.opacity) fun x p => { p with opacity := x },
    .of Style.Field.wrapChar.key (option char) (·.wrapChar) fun x p => { p with wrapChar := x },
    .of Style.Field.wrapBefore.key (option bool) (·.wrapBefore) fun x p => { p with wrapBefore := x },
    .of Style.Field.textTransform.key (option choice) (·.textTransform)
      fun x p => { p with textTransform := x },
    .of Style.Field.fill.key (option color) (·.fill) fun x p => { p with fill := x },
    .of Style.Field.haloFill.key (option color) (·.haloFill) fun x p => { p with haloFill := x },
    .of Style.Field.haloRadius.key (option float) (·.haloRadius) fun x p => { p with haloRadius := x }]

def stylePatch : Codec Style.Patch := record stylePatchFields ∅

end MapLabel.Config
