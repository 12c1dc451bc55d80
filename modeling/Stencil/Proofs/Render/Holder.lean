import Stencil.Proofs.Render.Conduct

/-!
# The holder of a name

A name is looked up in a stack of frames of any depth. Here the stack is written from the outermost
frame to the innermost one, so that the holder of a name is the frame with the greatest index among
those that hold the name (`Context.IsInnermost`). What it takes to hold a name is said for each sort
of frame by `Value.Holds`.

A lookup comes to what the holder stores, or to what one run of the holder's method comes to. This
is so whatever running a method does (`Render.lookupBy`): a lookup that ran another method, or one
method twice, would show it for a runner that reports what it runs.
-/

namespace Stencil

/-- A frame holds a member under a name: what a mapping has under the name as a key, or what an
object or a class offers under it, if the name does not begin with an underscore. -/
inductive Value.Holds (store : Store) (name : Text) : Value → Member → Prop where
  | entry {address value} (isEntry : (store.entries address).lookup (.text name) = some value) :
      Holds store name (.mapping address) (.stored value)
  | frozenEntry {entries value} (isEntry : entries.lookup (.text name) = some value) :
      Holds store name (.frozen entries) (.stored value)
  | member {holder member} (isObject : holder.kind = .object) (isPublic : ¬[.char '_'] <+: name)
      (offered : holder.member? store name = some member) : Holds store name holder member

/-- A name is private if it begins with an underscore. -/
theorem isPrivate_iff {name : Text} : isPrivate name = true ↔ [.char '_'] <+: name := by
  cases name with
  | nil => simp [isPrivate]
  | cons first rest =>
    simp only [isPrivate, List.head?_cons, beq_iff_eq, Option.some.injEq, List.cons_prefix_cons,
      List.nil_prefix, and_true]
    exact eq_comm

/-- What a frame is found to hold is what it holds. -/
theorem Value.holding?_eq_some_iff {store : Store} {name : Text} {frame : Value} {member : Member} :
    frame.holding? store name = some member ↔ frame.Holds store name member := by
  constructor
  · intro held
    cases frame with
    | mapping address =>
      obtain ⟨value, isEntry, rfl⟩ := Option.map_eq_some_iff.mp held
      exact .entry isEntry
    | frozen entries =>
      obtain ⟨value, isEntry, rfl⟩ := Option.map_eq_some_iff.mp held
      exact .frozenEntry isEntry
    | _ =>
      simp only [holding?, Option.ite_none_right_eq_some] at held
      obtain ⟨⟨isObject, isPublic⟩, offered⟩ := held
      exact .member isObject (fun begins => isPublic (isPrivate_iff.mpr begins)) offered
  · intro holds
    cases holds with
    | entry isEntry => simp [holding?, isEntry]
    | frozenEntry isEntry => simp [holding?, isEntry]
    | member isObject isPublic offered =>
      have notPrivate : isPrivate name = false :=
        Bool.eq_false_iff.mpr fun begins => isPublic (isPrivate_iff.mp begins)
      cases frame with
      | mapping => cases isObject
      | frozen => cases isObject
      | _ => simp [holding?, isObject, notPrivate, offered]

/-- What a frame is not found to hold it does not hold. -/
theorem Value.holding?_eq_none_iff {store : Store} {name : Text} {frame : Value} :
    frame.holding? store name = none ↔ ∀ member, ¬frame.Holds store name member := by
  simp only [Option.eq_none_iff_forall_ne_some, ne_eq, holding?_eq_some_iff]

namespace Context

variable {store : Store} {name : Text}

/-- The holder of a name in a stack, given from the outermost frame to the innermost one: no frame
with a greater index holds the name. -/
structure IsInnermost (store : Store) (name : Text) (stack : List Value) (index : Nat)
    (frame : Value) (member : Member) : Prop where
  isFrame : stack[index]? = some frame
  holds : frame.Holds store name member
  innermost : ∀ further inner, index < further → stack[further]? = some inner →
    ∀ other, ¬inner.Holds store name other

/-- Frames that do not hold a name are passed over. -/
theorem find?_append_of_passed {inner : List Value} (outer : List Value)
    (passed : ∀ frame ∈ inner, frame.holding? store name = none) :
    find? store name (inner ++ outer) =
      (find? store name outer).map fun (distance, found) => (distance + inner.length, found) := by
  induction inner with
  | nil => simp
  | cons frame inner inductionHypothesis =>
    have further := inductionHypothesis fun other member =>
      passed other (List.mem_cons_of_mem frame member)
    rw [List.cons_append, find?, passed frame List.mem_cons_self, further]
    simp [Function.comp_def, Nat.add_assoc]

/-- Where no frame holds a name, it is not found. -/
theorem find?_eq_none_of_forall {stack : List Value}
    (passed : ∀ frame ∈ stack, ∀ member, ¬frame.Holds store name member) :
    find? store name stack.reverse = none := by
  have absent : ∀ frame ∈ stack.reverse, frame.holding? store name = none := fun frame isFrame =>
    Value.holding?_eq_none_iff.mpr (passed frame (List.mem_reverse.mp isFrame))
  have skipped := find?_append_of_passed [] absent
  rwa [List.append_nil] at skipped

/-- The holder of a name is what is found. -/
theorem IsInnermost.find?_eq {stack : List Value} {index : Nat} {frame : Value} {member : Member}
    (isInnermost : IsInnermost store name stack index frame member) :
    ∃ distance, find? store name stack.reverse = some (distance, frame, member) := by
  obtain ⟨isThere, isFrame⟩ := List.getElem?_eq_some_iff.mp isInnermost.isFrame
  have held := Value.holding?_eq_some_iff.mpr isInnermost.holds
  have passed : ∀ inner ∈ (stack.drop (index + 1)).reverse, inner.holding? store name = none := by
    intro inner isInner
    obtain ⟨offset, atOffset⟩ := List.mem_iff_getElem?.mp (List.mem_reverse.mp isInner)
    rw [List.getElem?_drop] at atOffset
    exact Value.holding?_eq_none_iff.mpr (isInnermost.innermost _ inner (by omega) atOffset)
  have splits : stack.reverse =
      (stack.drop (index + 1)).reverse ++ frame :: (stack.take index).reverse := by
    calc stack.reverse
        = (stack.take index ++ frame :: stack.drop (index + 1)).reverse := by
          rw [← isFrame, List.getElem_cons_drop, List.take_append_drop]
      _ = _ := by simp
  refine ⟨(stack.drop (index + 1)).length, ?_⟩
  rw [splits, find?_append_of_passed _ passed, find?, held]
  simp

end Context

namespace Render

/-- Looks a name up in frames, for any way in which the methods of frames are run. -/
def lookupBy (run : Value → Method → Render Value) (name : Text) (frames : List Value) :
    Render (Option Value × Value) := do
  match Context.find? (← get).store name frames with
  | some (_, frame, .stored value) => return (some frame, value)
  | some (_, frame, .computed method) => return (some frame, ← run frame method)
  | none => return (frames.getLast?, .text [])

/-- Methods are run as objects compute their members. -/
theorem lookup_eq_lookupBy (deeper : Deeper) : lookup deeper = lookupBy (compute deeper) := by
  funext name frames session
  rw [lookup, lookupBy, bind_of_get, bind_of_get]
  cases Context.find? session.store name frames with
  | none => rfl
  | some place =>
    obtain ⟨distance, frame, member⟩ := place
    cases member <;> rfl

/-- What comes of one run of a method, with its frame. -/
theorem run_method_eq (run : Value → Method → Render Value) (frame : Value) (method : Method)
    (session : Session) :
    (do return (some frame, ← run frame method) : Render (Option Value × Value)) session =
      match run frame method session with
      | (.ok value, after) => (.ok (some frame, value), after)
      | (.error failure, after) => (.error failure, after) := by
  cases ran : run frame method session with
  | mk result after =>
    cases result with
    | ok value => exact bind_of_ok ran
    | error failure => exact bind_of_error ran

/-- A lookup comes to what the innermost frame holds that holds the name. A stored value is the
answer as it is, and the session is left as it was. A method is run once, in the session as it was,
and what it yields, its failure, and the session that it leaves are those of the lookup. Without a
holder the answer is the empty text, with the outermost frame if there is one. -/
theorem lookup_innermost (deeper : Deeper) (name : Text) (stack : List Value) (session : Session) :
    lookup deeper = lookupBy (compute deeper) ∧
      ∀ run,
        (∀ index frame member,
          Context.IsInnermost session.store name stack index frame member →
          lookupBy run name stack.reverse session = match member with
            | .stored value => (.ok (some frame, value), session)
            | .computed method => match run frame method session with
              | (.ok value, after) => (.ok (some frame, value), after)
              | (.error failure, after) => (.error failure, after)) ∧
        ((∀ frame ∈ stack, ∀ member, ¬frame.Holds session.store name member) →
          lookupBy run name stack.reverse session = (.ok (stack.head?, .text []), session)) := by
  refine ⟨lookup_eq_lookupBy deeper, fun run => ⟨?_, ?_⟩⟩
  · intro index frame member isInnermost
    obtain ⟨distance, found⟩ := isInnermost.find?_eq
    rw [lookupBy, bind_of_get, found]
    cases member with
    | stored value => rfl
    | computed method => exact run_method_eq run frame method session
  · intro passed
    rw [lookupBy, bind_of_get, Context.find?_eq_none_of_forall passed]
    simp only [List.getLast?_reverse]
    rfl

/-- An object whose method `m` fails, inside it one whose method `m` answers with nothing, and
inside of both a text. -/
def layeredStack : List Value :=
  [.object [(.of "m", .computed (.raises (.of "no")))] [] true .thing,
    .object [(.of "m", .computed (.returns .null))] [] false .thing, .text (.of "m")]

/-- A session in these frames. -/
def layeredSession : Session :=
  { Session.start (.empty (.empty none)) ⟨[]⟩ with frames := layeredStack.reverse }

/-- The method of the inner object is run, and the one of the outer object is not. Nothing is found
under a private name, so the frame is the outermost one. -/
theorem lookup_innermost_layeredStack :
    Context.IsInnermost layeredSession.store (.of "m") layeredStack 1 layeredStack[1]
        (.computed (.returns .null)) ∧
      (∀ frame ∈ layeredStack, ∀ member, ¬frame.Holds layeredSession.store (.of "_m") member) ∧
      lookup (generate 0) (.of "m") layeredStack.reverse layeredSession =
        (.ok (some layeredStack[1], .null), layeredSession) ∧
      lookup (generate 0) (.of "_m") layeredStack.reverse layeredSession =
        (.ok (some layeredStack[0], .text []), layeredSession) := by
  have isInnermost : Context.IsInnermost layeredSession.store (.of "m") layeredStack 1
      layeredStack[1] (.computed (.returns .null)) := by
    refine ⟨rfl, Value.holding?_eq_some_iff.mp rfl, fun further inner isFurther isThere => ?_⟩
    match further, isThere with
    | 2, isThere =>
      cases isThere
      exact Value.holding?_eq_none_iff.mp rfl
    | further + 3, isThere => cases isThere
  have passed : ∀ frame ∈ layeredStack, ∀ member,
      ¬frame.Holds layeredSession.store (.of "_m") member := by
    simp only [layeredStack, List.forall_mem_cons, ← Value.holding?_eq_none_iff]
    exact ⟨rfl, rfl, rfl, nofun⟩
  obtain ⟨same, found⟩ := lookup_innermost (generate 0) (.of "m") layeredStack layeredSession
  obtain ⟨-, absent⟩ := lookup_innermost (generate 0) (.of "_m") layeredStack layeredSession
  refine ⟨isInnermost, passed, ?_, ?_⟩
  · rw [same]
    exact (found _).1 1 _ _ isInnermost
  · rw [same]
    exact (absent _).2 passed

end Render

end Stencil
