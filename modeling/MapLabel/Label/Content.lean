import MapLabel.Editing
import MapLabel.Expression.Collection
import MapLabel.Expression.Parser
import MapLabel.Label.Basic
import MapLabel.Style.Patch
/-!
The content of a label: a tree of texts, with patches to the style on its branches.

Every leaf yields one run, in the style that results from the patches above it. A text that cannot be
evaluated yields an empty run and an error, and does not disturb the other leaves.
-/

namespace MapLabel

/-- What a label shows. -/
inductive Content where
  /-- The text of an expression, transformed as the style asks. -/
  | text (e : Expression)
  /-- Contents one after the other. -/
  | list (children : List Content)
  /-- Content in a changed style. -/
  | styled (patch : Style.Patch) (child : Content)
  /-- The identifier of the feature behind a number sign, as it is. -/
  | featureId
deriving Repr

namespace Content

/-- The text that an expression in its written form describes. -/
def parse (source : String) : Except ParseError Content := (Expression.parse source).map text

/-- Content in a changed style, if the patch is valid. -/
def styled? (patch : Style.Patch) (child : Content) : Except StyleError Content := do
  patch.validate
  return styled patch child

mutual

/-- Adds the runs and errors of the content to a label. -/
def render (style : Style) (f : Feature) (label : Label) : Content → Label
  | text e =>
    match e.evaluate f with
    | .ok t => label.push (style.textTransform.apply t) style
    | .error cause => (label.report ⟨label.size, e.print, cause⟩).push "" style
  | list children => renderAll style f label children
  | styled patch child => child.render (patch.applyTo style) f label
  | featureId => label.push s!"#{f.id}" style

def renderAll (style : Style) (f : Feature) (label : Label) : List Content → Label
  | [] => label
  | c :: cs => renderAll style f (c.render style f label) cs

end

mutual

/-- Adds the expressions of the content to a set. -/
def collect (s : ExpressionSet) : Content → ExpressionSet
  | text e => s.insert e
  | list children => collectAll s children
  | styled _ child => child.collect s
  | featureId => s

def collectAll (s : ExpressionSet) : List Content → ExpressionSet
  | [] => s
  | c :: cs => collectAll (c.collect s) cs

end

end Content

/-- Content under a patch that was checked, as a thing to edit. -/
structure StyledContent where
  patch : Style.Patch
  child : Content

namespace StyledContent

def toContent (s : StyledContent) : Content := .styled s.patch s.child

/-- Replaces the patch. -/
def setPatch (s : StyledContent) (patch : Style.Patch) : Except StyleError Unit × StyledContent := editing s do
  patch.validate
  modify fun s => { s with patch }

/-- The content with another child, and the child that it had. -/
def replaceChild (s : StyledContent) (child : Content) : Content × StyledContent :=
  (s.child, { s with child })

end StyledContent

end MapLabel
