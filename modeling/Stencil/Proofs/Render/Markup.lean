import Stencil.Proofs.Render.Outcome
import Stencil.Proofs.Template.Outline
import Stencil.Proofs.Text.Entity

/-!
# Markup in the output

Where every value is escaped, data does not bring markup into the output: the output is put together
from literal texts of the nodes and from escaped texts (`Render.markup_of_generate`). The one way
around this are blocks that a lambda stands for, since what a lambda answers for a block is rendered
as a template of its own. A lambda that stands for a value is no such way, whatever it answers and
has rendered meanwhile, because the text that comes of it is escaped in the end.
-/

namespace Stencil

/-! ## Pieces -/

namespace Text

/-- A text in pieces, each of them one of some literal texts or an escaped text. -/
def PiecesFrom (literals pieces : List Text) (text : Text) : Prop :=
  pieces.flatten = text ∧
    ∀ piece ∈ pieces, piece ∈ literals ∨ ∃ source, piece = Entity.escape source

/-- The code point behind some text in front of a text in pieces is one of this piece. -/
def StandsIn (pieces : List Text) (before : Text) (point : CodePoint) (piece : Text) : Prop :=
  ∃ earlier later front back, pieces = earlier ++ piece :: later ∧
    piece = front ++ point :: back ∧ before = earlier.flatten ++ front

/-- A literal text is a piece. -/
theorem PiecesFrom.literal {literals : List Text} {text : Text} (isLiteral : text ∈ literals) :
    PiecesFrom literals [text] text :=
  ⟨List.flatten_singleton, fun _ member => .inl (List.mem_singleton.mp member ▸ isLiteral)⟩

/-- An escaped text is a piece. -/
theorem PiecesFrom.escaped (literals : List Text) (source : Text) :
    PiecesFrom literals [Entity.escape source] (Entity.escape source) :=
  ⟨List.flatten_singleton, fun _ member => .inr ⟨source, List.mem_singleton.mp member⟩⟩

/-- Texts in pieces can be joined. -/
theorem PiecesFrom.append {literals pieces more : List Text} {first second : Text}
    (former : PiecesFrom literals pieces first) (latter : PiecesFrom literals more second) :
    PiecesFrom literals (pieces ++ more) (first ++ second) := by
  refine ⟨by rw [List.flatten_append, former.1, latter.1], fun piece member => ?_⟩
  rcases List.mem_append.mp member with isFormer | isLatter
  · exact former.2 piece isFormer
  · exact latter.2 piece isLatter

/-- There may be more literal texts. -/
theorem PiecesFrom.mono {literals more pieces : List Text} {text : Text}
    (inPieces : PiecesFrom literals pieces text) (subset : literals ⊆ more) :
    PiecesFrom more pieces text :=
  ⟨inPieces.1, fun piece member => (inPieces.2 piece member).imp_left fun isLiteral =>
    subset isLiteral⟩

/-- Every code point of a text in pieces stands in one of them, and what follows it there follows it
in the text. -/
theorem exists_piece {pieces : List Text} {before behind : Text} {point : CodePoint}
    (splits : pieces.flatten = before ++ point :: behind) :
    ∃ piece front back, piece ∈ pieces ∧ piece = front ++ point :: back ∧ back <+: behind ∧
      StandsIn pieces before point piece := by
  induction pieces generalizing before with
  | nil => simp at splits
  | cons piece pieces inductionHypothesis =>
    rw [List.flatten_cons, List.append_eq_append_iff] at splits
    have beyond {further : Text} (rest : pieces.flatten = further ++ point :: behind)
        (same : before = piece ++ further) :
        ∃ other front back, other ∈ piece :: pieces ∧ other = front ++ point :: back ∧
          back <+: behind ∧ StandsIn (piece :: pieces) before point other := by
      obtain ⟨other, front, back, member, splitsOther, begins, earlier, later, start, stop,
        inPieces, here, place⟩ := inductionHypothesis rest
      refine ⟨other, front, back, List.mem_cons_of_mem _ member, splitsOther, begins,
        piece :: earlier, later, start, stop, by rw [inPieces]; rfl, here, ?_⟩
      rw [same, place, List.flatten_cons, List.append_assoc]
    rcases splits with ⟨further, same, rest⟩ | ⟨further, splitsPiece, rest⟩
    · exact beyond rest same
    · cases further with
      | nil => exact @beyond [] rest.symm (by simpa using splitsPiece.symm)
      | cons first back =>
        obtain ⟨rfl, behindEq⟩ := List.cons.inj rest
        exact ⟨piece, before, back, List.mem_cons_self, splitsPiece,
          ⟨pieces.flatten, behindEq.symm⟩, [], pieces, before, back, rfl, splitsPiece, rfl⟩

/-- Markup in a text in pieces is in a literal text. -/
theorem PiecesFrom.stands_of_isMarkup {literals pieces : List Text} {text before behind : Text}
    {point : CodePoint} (inPieces : PiecesFrom literals pieces text)
    (splits : text = before ++ point :: behind) (isMarkup : Entity.IsMarkup point) :
    ∃ piece ∈ literals, StandsIn pieces before point piece := by
  obtain ⟨piece, front, back, member, same, -, stands⟩ :=
    exists_piece (inPieces.1.trans splits)
  rcases inPieces.2 piece member with isLiteral | ⟨source, rfl⟩
  · exact ⟨piece, isLiteral, stands⟩
  · exact absurd (by simp [same]) (Entity.not_mem_escape isMarkup source)

/-- An ampersand in a text in pieces is in a literal text, or a reference begins with it. -/
theorem PiecesFrom.stands_of_ampersand {literals pieces : List Text} {text before behind : Text}
    (inPieces : PiecesFrom literals pieces text)
    (splits : text = before ++ .char '&' :: behind) :
    (∃ piece ∈ literals, StandsIn pieces before (.char '&') piece) ∨
      ∃ reference ∈ Entity.references, reference <+: .char '&' :: behind := by
  obtain ⟨piece, front, back, member, same, begins, stands⟩ :=
    exists_piece (inPieces.1.trans splits)
  rcases inPieces.2 piece member with isLiteral | ⟨source, rfl⟩
  · exact .inl ⟨piece, isLiteral, stands⟩
  · obtain ⟨reference, isReference, isFirst⟩ := Entity.begins_of_mem_escape same
    exact .inr ⟨reference, isReference, isFirst.trans (List.cons_prefix_cons.mpr ⟨rfl, begins⟩)⟩

end Text

/-! ## Nodes -/

/-- A node without inclusions in which every value is escaped and every block has its body. -/
inductive Node.Escapes : Node → Prop where
  | literal (text : Text) : Escapes (.literal text)
  | interpolation (name : Text) : Escapes (.interpolation name true)
  | block {body} (name : Text) (inverted : Bool) (source : Text) (delimiters : Delimiters)
      (inside : ∀ node ∈ body, Escapes node) :
      Escapes (.block name inverted source delimiters (some body))
  | foreign (value : Value) : Escapes (.foreign value)

/-- The literal texts among nodes. -/
def Node.literalTexts : List Node → List Text :=
  gatherAll fun
    | .literal text => [text]
    | _ => []

namespace Render

/-- The body of a block whose name has a value is rendered from a session on. -/
inductive Enters (deeper : Deeper) (partials : Partials) (body : List Node) (value : Value)
    (session : Session) : Bool → Session → Prop where
  | instead (fails : value.truth session.store = false) :
      Enters deeper partials body value session true session
  | each {items item point} (hasItems : value.items? = some items)
      (turn : Turn (fun item => withFrame item (deeper partials body)) items session item point) :
      Enters deeper partials body value session false { point with frames := item :: point.frames }
  | once (single : value.items? = none) (holds : value.truth session.store = true) :
      Enters deeper partials body value session false
        { session with frames := value :: session.frames }

/-- While nodes are rendered, the tag of a block comes by a value: a block among the nodes, or in
the body of one that is rendered. Inverted blocks do nothing with a value. -/
inductive ComesBy (partials : Partials) : Nat → List Node → Session → Value → Prop where
  | here {depth nodes session name source delimiters body point frame value after}
      (turn : Turn (node (generate depth) partials) nodes session
        (.block name false source delimiters body) point)
      (found : lookup (generate depth) name point.frames point = (.ok (frame, value), after)) :
      ComesBy partials (depth + 1) nodes session value
  | inside {depth nodes session name inverted source delimiters body point frame held between inner
        value}
      (turn : Turn (node (generate depth) partials) nodes session
        (.block name inverted source delimiters (some body)) point)
      (found : lookup (generate depth) name point.frames point = (.ok (frame, held), between))
      (enters : Enters (generate depth) partials body held between inverted inner)
      (further : ComesBy partials depth body inner value) :
      ComesBy partials (depth + 1) nodes session value

/-- An escaped value comes to an escaped text. -/
theorem answers_interpolation (deeper : Deeper) (partials : Partials) (name : Text) :
    Answers (fun text => ∃ source, text = Text.Entity.escape source)
      (interpolation deeper partials name true) := by
  rw [interpolation_eq]
  refine Answers.bind fun session => Answers.bind fun found => ?_
  obtain ⟨frame, value⟩ := found
  dsimp only
  split
  · exact Answers.bind fun text => answers_pure ⟨text, rfl⟩
  · exact Answers.bind fun text => answers_pure ⟨text, rfl⟩

/-- Texts that are joined are in pieces if each of them is. -/
theorem joinEach_pieces {α : Type} {literals : List Text} {render : α → Render Text}
    {items : List α} {session after : Session} {text : Text}
    (ran : joinEach render items session = (.ok text, after))
    (each : ∀ item point part behind, Turn render items session item point →
      render item point = (.ok part, behind) →
        ∃ pieces, Text.PiecesFrom literals pieces part) :
    ∃ pieces, Text.PiecesFrom literals pieces text := by
  have empty : ∃ pieces, Text.PiecesFrom literals pieces [] := ⟨[], rfl, by simp⟩
  refine joinEach_induction empty ?_ ran each
  rintro first others ⟨pieces, former⟩ ⟨more, latter⟩
  exact ⟨pieces ++ more, former.append latter⟩

section Pieces

variable {depth : Nat} {partials : Partials}

/-- If the output of bodies is in pieces, so is that of a block that does not come by a lambda. -/
theorem exists_pieces_of_block {name : Text} {inverted : Bool} {source : Text}
    {delimiters : Delimiters} {nodes : List Node} {session after : Session} {text : Text}
    (ran : block (generate depth) partials name inverted source delimiters (some nodes) session =
      (.ok text, after))
    (notLambda : ∀ frame value between, inverted = false →
      lookup (generate depth) name session.frames session = (.ok (frame, value), between) →
        value.kind ≠ .lambda)
    (ofBody : ∀ frame value between inner,
      lookup (generate depth) name session.frames session = (.ok (frame, value), between) →
        Enters (generate depth) partials nodes value between inverted inner →
          ∀ part behind, generate depth partials nodes inner = (.ok part, behind) →
            ∃ pieces, Text.PiecesFrom (Node.literalTexts nodes) pieces part) :
    ∃ pieces, Text.PiecesFrom (Node.literalTexts nodes) pieces text := by
  obtain ⟨frame, value, between, found, blocked⟩ := blocked_of_block_eq_ok ran
  cases blocked with
  | hidden => exact ⟨[], rfl, by simp⟩
  | instead fails ran => exact ofBody _ _ _ _ found (.instead fails) _ _ ran
  | each hasItems ran =>
    refine joinEach_pieces ran fun item point part behind turn ran => ?_
    obtain ⟨last, ranBody, -⟩ := exists_of_withFrame_eq_ok ran
    exact ofBody _ _ _ _ found (.each hasItems turn) _ _ ranBody
  | replaced isLambda => exact absurd isLambda (notLambda _ _ _ rfl found)
  | once single _ holds ran =>
    obtain ⟨last, ranBody, -⟩ := exists_of_withFrame_eq_ok ran
    exact ofBody _ _ _ _ found (.once single holds) _ _ ranBody
  | missing => exact ⟨[], rfl, by simp⟩

/-- Nodes that escape come to pieces. -/
theorem exists_pieces_of_generate {nodes : List Node} {session after : Session} {text : Text}
    (escapes : ∀ node ∈ nodes, node.Escapes)
    (noLambda : ∀ value, ComesBy partials depth nodes session value → value.kind ≠ .lambda)
    (ran : generate depth partials nodes session = (.ok text, after)) :
    ∃ pieces, Text.PiecesFrom (Node.literalTexts nodes) pieces text := by
  induction depth generalizing nodes session after text with
  | zero => cases ran
  | succ depth inductionHypothesis =>
    refine joinEach_pieces ran fun node point part behind turn ran => ?_
    have member := turn.mem
    have literals := Node.gather_subset (fun
      | .literal text => [text]
      | _ => []) member
    cases escapes node member with
    | literal content =>
      cases ran
      exact ⟨_, .literal (literals (List.mem_singleton.mpr rfl))⟩
    | interpolation name =>
      obtain ⟨source, rfl⟩ := answers_interpolation _ partials name _ _ _ ran
      exact ⟨_, .escaped _ source⟩
    | @block body name inverted source delimiters inside =>
      obtain ⟨pieces, inPieces⟩ := exists_pieces_of_block ran
        (by
          rintro frame value between rfl found
          exact noLambda value (.here turn found))
        (fun frame value between inner found enters part behind ran =>
          inductionHypothesis inside
            (fun other further => noLambda other (.inside turn found enters further)) ran)
      refine ⟨pieces, inPieces.mono fun piece isLiteral => literals ?_⟩
      rw [Node.gather_block]
      exact List.mem_append_left _ isLiteral
    | foreign value => cases ran

/-- Data does not bring markup into the output of nodes that escape, unless a lambda stands for a
block of theirs. The output is made of literal texts of the nodes and of escaped texts, all markup
in it stands in literal texts, and every ampersand stands in one too or begins a reference. -/
theorem markup_of_generate {nodes : List Node} {session after : Session} {text : Text}
    (escapes : ∀ node ∈ nodes, node.Escapes)
    (noLambda : ∀ value, ComesBy partials depth nodes session value → value.kind ≠ .lambda)
    (ran : generate depth partials nodes session = (.ok text, after)) :
    ∃ pieces, Text.PiecesFrom (Node.literalTexts nodes) pieces text ∧
      ∀ before point behind, text = before ++ point :: behind →
        (Text.Entity.IsMarkup point →
          ∃ piece ∈ Node.literalTexts nodes, Text.StandsIn pieces before point piece) ∧
        (point = .char '&' →
          (∃ piece ∈ Node.literalTexts nodes, Text.StandsIn pieces before point piece) ∨
            ∃ reference ∈ Text.Entity.references, reference <+: point :: behind) := by
  obtain ⟨pieces, inPieces⟩ := exists_pieces_of_generate escapes noLambda ran
  refine ⟨pieces, inPieces, fun before point behind splits => ⟨fun isMarkup => ?_, ?_⟩⟩
  · exact inPieces.stands_of_isMarkup splits isMarkup
  · rintro rfl
    exact inPieces.stands_of_ampersand splits

end Pieces

/-- A block that shows a value between tags of markup. -/
def emphasis : List Node :=
  [.block (.of "s") false (.of "<b>\x7b\x7bv\x7d\x7d</b>") .standard
    (some [.literal (.of "<b>"), .interpolation (.of "v") true, .literal (.of "</b>")])]

/-- The start of a rendering in which the value shown is a tag of markup itself. -/
def taggedSession : Session :=
  { Session.start ⟨#[[(.text (.of "s"), .bool true), (.text (.of "v"), .text (.of "<i>"))]],
    #[], #[], .empty none⟩ ⟨[]⟩ with frames := [.mapping 0] }

/-- The tags of markup around the value are in the output, and the one that is the value is not. -/
theorem markup_of_generate_emphasis :
    (∀ node ∈ emphasis, node.Escapes) ∧
      (∀ value, ComesBy .absent 2 emphasis taggedSession value → value.kind ≠ .lambda) ∧
      ∃ pieces, Text.PiecesFrom (Node.literalTexts emphasis) pieces
        (.of "<b>&lt;i&gt;</b>") := by
  have escapes : ∀ node ∈ emphasis, node.Escapes := by
    rintro node (_ | ⟨_, ⟨⟩⟩)
    refine .block _ _ _ _ fun inner member => ?_
    simp only [List.mem_cons, List.not_mem_nil, or_false] at member
    obtain rfl | rfl | rfl := member
    exacts [.literal _, .interpolation _, .literal _]
  have noLambda : ∀ value, ComesBy .absent 2 emphasis taggedSession value →
      value.kind ≠ .lambda := by
    intro value comes
    cases comes with
    | here turn found =>
      cases turn with
      | first =>
        cases found
        decide
      | next _ further => cases further
    | inside turn found enters further =>
      cases turn with
      | first =>
        -- There is no block inside the block.
        cases further with
        | here turn => exact absurd turn.mem (by simp)
        | inside turn => exact absurd turn.mem (by simp)
      | next _ further => cases further
  have ran : (generate 2 .absent emphasis taggedSession).1 = .ok (.of "<b>&lt;i&gt;</b>") := by
    rfl
  obtain ⟨pieces, inPieces, -⟩ := markup_of_generate escapes noLambda (Prod.ext ran rfl)
  exact ⟨escapes, noLambda, pieces, inPieces⟩

end Render

end Stencil
