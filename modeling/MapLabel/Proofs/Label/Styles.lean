import MapLabel.Label.Content
import MapLabel.Proofs.Placement.Validity
/-!
# The styles of runs

On the way from the root of a content to its leaves nothing but a patch changes the style, and a patch is
checked before it gets into a content. So a content that starts from a valid style gives every run a valid
style (`Content.Built.usable`). Contents are not all that can add runs to a label: the same holds of any
node that draws in the style that it is given (`Node.Built.usable`).
-/

namespace MapLabel

/-- Every run is in a style that passes the check. -/
def Label.Usable (l : Label) : Prop := ∀ r ∈ l.runs, r.style.validate = .ok ()

theorem Label.usable_empty : Usable ∅ := by
  intro r hr
  cases hr

theorem Label.Usable.push {l : Label} {s : Style} (hl : l.Usable) (hs : s.Valid) (t : String) :
    (l.push t s).Usable := by
  intro r hr
  rcases List.mem_append.1 hr with hr | hr
  · exact hl r hr
  · rw [List.mem_singleton.1 hr]
    exact Style.validate_eq_ok_iff.2 hs

/-! ## Nodes -/

/-- Whatever adds to a label, given the style from above and the feature. -/
abbrev Node : Type := Style → Feature → Label → Label

/-- The ways from a label to another on which a node may go that keeps to the style `s`: it adds runs in
this style and errors, empties the label, and lets other nodes draw in this style, for any feature. -/
inductive Node.Draws (children : List Node) (s : Style) : Label → Label → Prop where
  | stop {l : Label} : Draws children s l l
  | push {l l' : Label} (t : String) : Draws children s (l.push t s) l' → Draws children s l l'
  | report {l l' : Label} (e : RunError) : Draws children s (l.report e) l' → Draws children s l l'
  | clear {l l' : Label} : Draws children s ∅ l' → Draws children s l l'
  | child {l l' : Label} {n : Node} (f : Feature) :
    n ∈ children → Draws children s (n s f l) l' → Draws children s l l'

/-- The nodes that can be put together of nodes that keep to their style, whatever else they do, and of
checked patches over other nodes. -/
inductive Node.Built : Node → Prop where
  | plain {n : Node} (children : List Node) :
    (∀ c ∈ children, Built c) → (∀ s f l, Draws children s l (n s f l)) → Built n
  | styled {child : Node} (patch : Style.Patch) :
    patch.validate = .ok () → Built child → Built fun s => child (patch.applyTo s)

namespace Node

/-- What is drawn in a valid style is usable, if all that the children add is. -/
theorem Draws.usable {children : List Node} {s : Style} {l l' : Label} (hs : s.Valid)
    (hchildren : ∀ n ∈ children, ∀ f l, Label.Usable l → (n s f l).Usable) (h : Draws children s l l')
    (hl : l.Usable) : l'.Usable := by
  induction h with
  | stop => exact hl
  | push t _ ih => exact ih (hl.push hs t)
  | report e _ ih => exact ih hl
  | clear _ ih => exact ih Label.usable_empty
  | child f hn _ ih => exact ih (hchildren _ hn f _ hl)

/-- In a valid style a node adds nothing but usable runs. -/
theorem Built.usable {n : Node} (h : n.Built) {s : Style} (hs : s.Valid) (f : Feature) {l : Label} (hl : l.Usable) :
    (n s f l).Usable := by
  induction h generalizing s f l with
  | plain children _ hdraws ih => exact (hdraws s f l).usable hs (fun c hc f _ hl => ih c hc hs f hl) hl
  | styled patch hpatch _ ih =>
    have hvalid := Style.Patch.validate_eq_ok_iff.1 hpatch
    exact ih ((Style.Patch.valid_applyTo_iff hs).2 hvalid) f hl

end Node

/-! ## Contents -/

mutual

/-- The contents that can be put together. -/
inductive Content.Built : Content → Prop where
  | text (e : Expression) : Content.Built (.text e)
  | featureId : Content.Built .featureId
  | list {children : List Content} : (∀ c ∈ children, Content.Built c) → Content.Built (.list children)
  | push {children : List Content} {c : Content} :
    Content.Built (.list children) → Content.Built c → Content.Built (.list (children ++ [c]))
  | styled {s : StyledContent} : StyledContent.Built s → Content.Built s.toContent
  /-- The child that another one took the place of. -/
  | replaced {s : StyledContent} {c : Content} :
    StyledContent.Built s → Content.Built c → Content.Built (s.replaceChild c).1

/-- The styled contents that can be put together, and what becomes of them as they are edited. -/
inductive StyledContent.Built : StyledContent → Prop where
  | new {s : StyledContent} :
    Content.styled? s.patch s.child = .ok s.toContent → Content.Built s.child → StyledContent.Built s
  | setPatch {s : StyledContent} (patch : Style.Patch) :
    StyledContent.Built s → StyledContent.Built (s.setPatch patch).2
  | replaceChild {s : StyledContent} {c : Content} :
    StyledContent.Built s → Content.Built c → StyledContent.Built (s.replaceChild c).2

end

namespace Content

/-- The node that a content is. -/
def node (c : Content) : Node := fun s f l => c.render s f l

theorem styled?_eq_ok_iff {patch : Style.Patch} {child c : Content} :
    styled? patch child = .ok c ↔ patch.validate = .ok () ∧ styled patch child = c := by
  rw [styled?, check_bind_eq_ok_iff, pure_eq_ok_iff]

theorem text_draws (e : Expression) (s : Style) (f : Feature) (l : Label) :
    Node.Draws [] s l ((text e).render s f l) := by
  rw [render]
  cases e.evaluate f with
  | ok t => exact .push _ .stop
  | error cause => exact .report _ (.push _ .stop)

theorem renderAll_draws {cs : List Content} {children : List Node} (h : ∀ c ∈ cs, c.node ∈ children) (s : Style)
    (f : Feature) (l : Label) : Node.Draws children s l (renderAll s f l cs) := by
  induction cs generalizing l with
  | nil => exact .stop
  | cons c cs ih =>
    obtain ⟨hc, hcs⟩ := List.forall_mem_cons.1 h
    exact .child f hc (ih hcs _)

theorem list_node_built {children : List Content} (h : ∀ c ∈ children, c.node.Built) : (list children).node.Built := by
  refine .plain (children.map node) (List.forall_mem_map.2 h) fun s f l => ?_
  exact renderAll_draws (fun c hc => List.mem_map_of_mem hc) s f l

theorem renderAll_concat (s : Style) (f : Feature) (l : Label) (cs : List Content) (c : Content) :
    renderAll s f l (cs ++ [c]) = c.render s f (renderAll s f l cs) := by
  induction cs generalizing l with
  | nil => rfl
  | cons c' cs ih => exact ih _

theorem push_node_built {children : List Content} {c : Content} (hcs : (list children).node.Built)
    (hc : c.node.Built) : (list (children ++ [c])).node.Built := by
  refine .plain [(list children).node, c.node] (by simp [hcs, hc]) fun s f l => ?_
  rw [node, render, renderAll_concat]
  exact .child f List.mem_cons_self (.child f (List.mem_cons_of_mem _ List.mem_cons_self) .stop)

end Content

/-- An attempt to set a patch sets a checked one, or nothing. -/
theorem StyledContent.setPatch_cases (s : StyledContent) (patch : Style.Patch) :
    (patch.validate = .ok () ∧ s.setPatch patch = (.ok (), { s with patch })) ∨
    ∃ e, patch.validate = .error e ∧ s.setPatch patch = (.error e, s) :=
  editing_cases s patch.validate fun s => { s with patch }

-- The two kinds of content are built of each other, so both statements go along one recursion.
mutual

theorem Content.Built.node_built : ∀ {c : Content}, c.Built → c.node.Built
  | _, .text e => .plain [] (by simp) (Content.text_draws e)
  | _, .featureId => .plain [] (by simp) fun _ _ _ => .push _ .stop
  | _, .list h => Content.list_node_built fun c hc => (h c hc).node_built
  | _, .push hcs hc => Content.push_node_built hcs.node_built hc.node_built
  | _, .styled hs => .styled _ hs.node_built.1 hs.node_built.2
  | _, .replaced hs _ => hs.node_built.2

theorem StyledContent.Built.node_built : ∀ {s : StyledContent}, s.Built → s.patch.validate = .ok () ∧ s.child.node.Built
  | _, .new h hchild => ⟨(Content.styled?_eq_ok_iff.1 h).1, hchild.node_built⟩
  | _, .setPatch (s := s) patch h => by
    obtain ⟨hs, hchild⟩ := h.node_built
    rcases s.setPatch_cases patch with ⟨hpatch, heq⟩ | ⟨e, -, heq⟩
    · rw [heq]
      exact ⟨hpatch, hchild⟩
    · rw [heq]
      exact ⟨hs, hchild⟩
  | _, .replaceChild h hc => ⟨h.node_built.1, hc.node_built⟩

end

/-- From a valid style, a content gives usable runs. -/
theorem Content.Built.usable {c : Content} (h : c.Built) {s : Style} (hs : s.Valid) (f : Feature) {l : Label}
    (hl : l.Usable) : (c.render s f l).Usable := h.node_built.usable hs f hl

end MapLabel
