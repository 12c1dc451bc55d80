import Stencil.Proofs.Template.Visit

/-!
# What nodes consist of

Nodes can be gone through depth first (`Node.gatherAll`): their literal text, their inclusions and
their blocks are gathered in this way. The outline of nodes is what is left of them without the
literals, the texts of the blocks and the indentations. It consists of nodes again, so that outlines
can be compared with those that a reference puts together.

All of these are simple for the two kinds of nodes that parsing makes outside of blocks: for what is
kept before a tag, and for what a tag asks for.
-/

namespace Stencil.Node

mutual

/-- What a node and the nodes inside it contribute. A block comes after its body. -/
def gather {α : Type} (own : Node → List α) : Node → List α
  | .block name inverted source delimiters body =>
    gatherBody own body ++ own (.block name inverted source delimiters body)
  | other => own other

/-- What the nodes of a body contribute, if there are any yet. -/
def gatherBody {α : Type} (own : Node → List α) : Option (List Node) → List α
  | none => []
  | some nodes => gatherAll own nodes

/-- What several nodes contribute, one after the other. -/
def gatherAll {α : Type} (own : Node → List α) : List Node → List α
  | [] => []
  | node :: nodes => gather own node ++ gatherAll own nodes

end

mutual

/-- A node without what does not belong to an outline. -/
def outline : Node → List Node
  | .literal _ => []
  | .block name inverted _ delimiters body =>
    [.block name inverted [] delimiters (outlineBody body)]
  | .inclusion name _ => [.inclusion name []]
  | other => [other]

/-- The outline of a body, if it has nodes yet. -/
def outlineBody : Option (List Node) → Option (List Node)
  | none => none
  | some nodes => some (outlineAll nodes)

/-- The outline of several nodes. -/
def outlineAll : List Node → List Node
  | [] => []
  | node :: nodes => outline node ++ outlineAll nodes

end

section Gather

variable {α : Type} (own : Node → List α)

@[simp] theorem gatherAll_nil : gatherAll own [] = [] :=
  rfl

@[simp] theorem gatherAll_cons (node : Node) (nodes : List Node) :
    gatherAll own (node :: nodes) = gather own node ++ gatherAll own nodes :=
  rfl

@[simp] theorem gatherAll_append (first second : List Node) :
    gatherAll own (first ++ second) = gatherAll own first ++ gatherAll own second := by
  induction first with
  | nil => rfl
  | cons node nodes inductionHypothesis => simp [inductionHypothesis]

/-- A block contributes what its body contributes, and then its own. -/
@[simp] theorem gather_block (name : Text) (inverted : Bool) (source : Text)
    (delimiters : Delimiters) (nodes : List Node) :
    gather own (.block name inverted source delimiters (some nodes)) =
      gatherAll own nodes ++ own (.block name inverted source delimiters (some nodes)) :=
  rfl

/-- What a node contributes, the nodes contribute. -/
theorem gather_subset {node : Node} {nodes : List Node} (member : node ∈ nodes) :
    gather own node ⊆ gatherAll own nodes := by
  induction nodes with
  | nil => cases member
  | cons first rest inductionHypothesis =>
    rw [gatherAll_cons]
    rcases List.mem_cons.mp member with rfl | later
    · exact List.subset_append_left _ _
    · exact fun _ isOfNode => List.mem_append_right _ (inductionHypothesis later isOfNode)

end Gather

@[simp] theorem outlineAll_nil : outlineAll [] = [] :=
  rfl

@[simp] theorem outlineAll_cons (node : Node) (nodes : List Node) :
    outlineAll (node :: nodes) = outline node ++ outlineAll nodes :=
  rfl

@[simp] theorem outlineAll_append (first second : List Node) :
    outlineAll (first ++ second) = outlineAll first ++ outlineAll second := by
  induction first with
  | nil => rfl
  | cons node nodes inductionHypothesis => simp [inductionHypothesis]

/-- Literals do not belong to an outline. -/
@[simp] theorem outlineAll_literals (text : Text) : outlineAll (literals text) = [] := by
  unfold literals
  split <;> rfl

/-- The outline of a block has the outline of its body. -/
@[simp] theorem outline_block (name : Text) (inverted : Bool) (source : Text)
    (delimiters : Delimiters) (nodes : List Node) :
    outline (.block name inverted source delimiters (some nodes)) =
      [.block name inverted [] delimiters (some (outlineAll nodes))] :=
  rfl

/-- The literal text of nodes. -/
def literalText : List Node → Text :=
  gatherAll fun
    | .literal text => text
    | _ => []

/-- The inclusions among nodes, each with its indentation. -/
def inclusions : List Node → List (Text × Text) :=
  gatherAll fun
    | .inclusion name indent => [(name, indent)]
    | _ => []

/-- The blocks among nodes. -/
def blocks : List Node → List Node :=
  gatherAll fun
    | .block name inverted source delimiters body => [.block name inverted source delimiters body]
    | _ => []

@[simp] theorem literalText_nil : literalText [] = [] :=
  rfl

@[simp] theorem inclusions_nil : inclusions [] = [] :=
  rfl

@[simp] theorem blocks_nil : blocks [] = [] :=
  rfl

@[simp] theorem literalText_append (first second : List Node) :
    literalText (first ++ second) = literalText first ++ literalText second :=
  gatherAll_append _ first second

@[simp] theorem inclusions_append (first second : List Node) :
    inclusions (first ++ second) = inclusions first ++ inclusions second :=
  gatherAll_append _ first second

@[simp] theorem blocks_append (first second : List Node) :
    blocks (first ++ second) = blocks first ++ blocks second :=
  gatherAll_append _ first second

section Block

variable (name : Text) (inverted : Bool) (source : Text) (delimiters : Delimiters)
  (nodes more : List Node)

@[simp] theorem literalText_block :
    literalText (.block name inverted source delimiters (some nodes) :: more) =
      literalText nodes ++ literalText more := by
  simp [literalText]

@[simp] theorem inclusions_block :
    inclusions (.block name inverted source delimiters (some nodes) :: more) =
      inclusions nodes ++ inclusions more := by
  simp [inclusions]

@[simp] theorem blocks_block :
    blocks (.block name inverted source delimiters (some nodes) :: more) =
      blocks nodes ++ .block name inverted source delimiters (some nodes) :: blocks more := by
  simp [blocks]

end Block

/-- A literal node has its own text, also where there is none. -/
@[simp] theorem literalText_literals (text : Text) : literalText (literals text) = text := by
  unfold literals
  split
  · rename_i isEmpty
    exact isEmpty.symm
  · simp [literalText, gather]

/-- There are no inclusions in a text. -/
@[simp] theorem inclusions_literals (text : Text) : inclusions (literals text) = [] := by
  unfold literals
  split <;> simp [inclusions, gather]

/-- There are no blocks in a text. -/
@[simp] theorem blocks_literals (text : Text) : blocks (literals text) = [] := by
  unfold literals
  split <;> simp [blocks, gather]

end Stencil.Node

/-! ## What is kept -/

namespace Stencil.Template.Visit

/-- What is kept before a tag does not belong to an outline. -/
@[simp] theorem outlineAll_kept (visit : Visit) : Node.outlineAll visit.placement.kept = [] := by
  rw [visit.kept_eq]
  split <;> simp

/-- What is kept before a tag is what is written there. -/
@[simp] theorem literalText_kept (visit : Visit) :
    Node.literalText visit.placement.kept = visit.placement.keptSource := by
  rw [visit.kept_eq, visit.keptSource_eq]
  split <;> simp

/-- There are no inclusions in what is kept before a tag. -/
@[simp] theorem inclusions_kept (visit : Visit) : Node.inclusions visit.placement.kept = [] := by
  rw [visit.kept_eq]
  split <;> simp

/-- There are no blocks in what is kept before a tag. -/
@[simp] theorem blocks_kept (visit : Visit) : Node.blocks visit.placement.kept = [] := by
  rw [visit.kept_eq]
  split <;> simp

end Stencil.Template.Visit

namespace Stencil

/-! ## Requests -/

/-- What a tag asks for, without its indentation. -/
def Tag.Request.outline : Tag.Request → Tag.Request
  | .emit nodes => .emit (Node.outlineAll nodes)
  | other => other

/-- What a tag asks for depends on the indentation only outside of the outline. -/
theorem Tag.outline_request (indent : Text) (tag : Tag) :
    (tag.request indent).outline = tag.request [] := by
  unfold Tag.request
  split
  · rfl
  · repeat' split
    all_goals rfl

/-- Requests with the same outline are the same, unless they ask for nodes. -/
theorem Tag.Request.eq_of_outline_eq {first second : Request}
    (same : first.outline = second.outline) (asksNothing : ∀ nodes, first ≠ .emit nodes) :
    second = first := by
  cases first with
  | emit nodes => exact absurd rfl (asksNothing nodes)
  | _ => cases second <;> simp_all [outline]

/-- A request with the outline of one for nodes is one for nodes. -/
theorem Tag.Request.exists_emit_of_outline_eq {first second : Request} {nodes : List Node}
    (same : first.outline = second.outline) (asked : first = .emit nodes) :
    ∃ others, second = .emit others ∧ Node.outlineAll others = Node.outlineAll nodes := by
  subst asked
  cases second with
  | emit others => exact ⟨others, rfl, (emit.inj same).symm⟩
  | _ => simp [outline] at same

/-- The nodes that are asked for. -/
def Tag.Request.nodes : Tag.Request → List Node
  | .emit nodes => nodes
  | _ => []

namespace Tag.Request

@[simp] theorem nodes_emit (nodes : List Node) : (emit nodes).nodes = nodes :=
  rfl

@[simp] theorem nodes_change (delimiters : Delimiters) : (change delimiters).nodes = [] :=
  rfl

@[simp] theorem nodes_opens (name : Text) (inverted : Bool) : (opens name inverted).nodes = [] :=
  rfl

@[simp] theorem nodes_closes (name : Text) : (closes name).nodes = [] :=
  rfl

end Tag.Request

/-- Tags ask for no literal text. -/
theorem Tag.literalText_request (indent : Text) (tag : Tag) :
    Node.literalText (tag.request indent).nodes = [] := by
  unfold Tag.request
  repeat' split
  all_goals rfl

/-- What a tag asks for has no blocks in it. -/
theorem Tag.blocks_request (indent : Text) (tag : Tag) :
    Node.blocks (tag.request indent).nodes = [] := by
  unfold Tag.request
  repeat' split
  all_goals rfl

/-- Tags that ask for no nodes are no interpolations. -/
theorem Tag.isInterpolation_eq_false {indent : Text} {tag : Tag}
    (asksNothing : ∀ nodes, tag.request indent ≠ .emit nodes) : tag.isInterpolation = false := by
  unfold Tag.request at asksNothing
  unfold Tag.isInterpolation
  cases sign : tag.form.sign with
  | none => simp [sign] at asksNothing
  | some point =>
    simp only [sign] at asksNothing ⊢
    split at asksNothing
    · simp at asksNothing
    · split at asksNothing
      · simp at asksNothing
      · simp_all

/-- Tags with one sign ask for an inclusion. -/
theorem Tag.inclusions_request (indent : Text) (tag : Tag) :
    Node.inclusions (tag.request indent).nodes =
      if tag.form.sign = some (.char '>') then [(tag.body, indent)] else [] := by
  unfold Tag.request
  cases tag.form.sign with
  | none => rfl
  | some sign =>
    dsimp only
    repeat' split
    all_goals first
      | rfl
      | (subst_vars; simp_all)

namespace Template

/-- What a visited tag asks for has no literal text. -/
theorem literalText_of_request {visit : Visit} {nodes : List Node}
    (asked : visit.request = .emit nodes) : Node.literalText nodes = [] := by
  have noText : Node.literalText visit.request.nodes = [] := Tag.literalText_request _ _
  rwa [asked] at noText

/-- What a visited tag asks for has no blocks in it. -/
theorem blocks_of_request {visit : Visit} {nodes : List Node}
    (asked : visit.request = .emit nodes) : Node.blocks nodes = [] := by
  have noBlocks : Node.blocks visit.request.nodes = [] := Tag.blocks_request _ _
  rwa [asked] at noBlocks

end Template

end Stencil
