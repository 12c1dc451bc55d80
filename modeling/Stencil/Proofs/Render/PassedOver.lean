import Stencil.Proofs.Render.Effect
import Stencil.Proofs.Render.Mirrored

/-!
# Frames that are passed over

Names are looked up in mappings and in objects; scalars, sequences and lambdas among the frames are
passed over. Wherever such frames are put among others (`Context.Interspersed`), rendering comes to
the same, leaves the same store behind and makes the same calls (`Render.generate_interspersed`).

Frames that are not looked at make a mirror image of those without them, one in which everything is
seen. The outermost frame may be one of them: it is the frame of a name that no frame holds, but
nothing is done with it then, since the value of such a name is a text.
-/

namespace Stencil

/-- Frames with further ones among them, at any places, in which no names are looked up: scalars,
sequences and lambdas. -/
inductive Context.Interspersed : List Value → List Value → Prop where
  | nil : Interspersed [] []
  | keep {frames others} (frame : Value) (outer : Interspersed frames others) :
      Interspersed (frame :: frames) (frame :: others)
  | insert {frames others} {frame : Value}
      (passedOver : frame.kind = .scalar ∨ frame.kind = .sequence ∨ frame.kind = .lambda)
      (outer : Interspersed frames others) : Interspersed frames (frame :: others)

/-- Frames with some that are passed over among them are a mirror image of those without them. -/
theorem Context.Interspersed.mirrors {frames others : List Value}
    (interspersed : Context.Interspersed frames others) :
    Context.Mirrors .full frames others := by
  induction interspersed with
  | nil => exact .nil
  | keep frame _ outerMirrors =>
    have mirrors := outerMirrors.cons frame
    rwa [Value.face_full] at mirrors
  | @insert frames others frame passedOver _ outerMirrors =>
    have noContext : frame.isContext = false := by
      rcases passedOver with isScalar | isSequence | isLambda
      · simp [Value.isContext, isScalar]
      · simp [Value.isContext, isSequence]
      · simp [Value.isContext, isLambda]
    unfold Context.Mirrors
    rw [List.filter_cons_of_neg (by simp [noContext])]
    exact outerMirrors

/-- Where everything is seen, inclusions come from where they come from. -/
theorem Partials.face_full (partials : Partials) : partials.face .full = partials := by
  cases partials <;> simp [Partials.face]

/-- Where everything is seen, a call is its own face. -/
theorem LambdaCall.face_full (call : LambdaCall) : call.face .full = call := by
  obtain ⟨function, isLambda, given, raw⟩ := call
  simp [LambdaCall.face]

/-- Where everything is seen, the mirror image of a session is the session but for its frames. -/
theorem Session.Mirrors.eq_of_full {session image : Session}
    (mirrored : session.Mirrors .full image) : image = { session with frames := image.frames } := by
  obtain ⟨store, frames, files, log⟩ := image
  obtain ⟨sameStore, -, sameFiles, sameLog⟩ := mirrored
  rw [Store.face_full] at sameStore
  cases sameStore
  cases sameFiles
  cases sameLog
  rfl

namespace Render

/-- Scalars, sequences and lambdas among the frames change nothing. Wherever they are, rendering
comes to the same text or fails in the same way, it leaves the same session but for these frames,
and it makes the same calls of lambdas in the same order. -/
theorem generate_interspersed (depth : Nat) (partials : Partials) (nodes : List Node)
    {session : Session} {frames : List Value}
    (interspersed : Context.Interspersed session.frames frames) :
    generate depth partials nodes { session with frames := frames } =
        ((generate depth partials nodes session).1,
          { (generate depth partials nodes session).2 with frames := frames }) ∧
      calls depth partials nodes { session with frames := frames } =
        calls depth partials nodes session := by
  have mirrored : session.Mirrors .full { session with frames := frames } :=
    ⟨session.store.face_full.symm, interspersed.mirrors, rfl, rfl⟩
  have mirrors := @Recorded.mirrors_generate .full depth partials nodes
  rw [Partials.face_full] at mirrors
  obtain ⟨outcome, mirroredAfter, -, sameFrames⟩ := mirrors.run _ _ mirrored
  rw [← Recorded.run_generate]
  constructor
  · refine Prod.ext outcome.eq.symm (mirroredAfter.eq_of_full.trans ?_)
    rw [sameFrames]
    rfl
  · have sameCalls := mirrors.calls _ _ mirrored
    rwa [List.map_congr_left fun call _ => call.face_full, List.map_id'] at sameCalls

/-- The frames of the watched session, with a lambda inside them, a list between them and a text
outside. -/
def crowdedFrames : List Value :=
  [.lambda 0, .mapping 0, .list [], .cache, .text (.of "x")]

/-- Among the crowded frames a lambda that stands for a name is written over, and called once for
it. -/
theorem generate_interspersed_crowdedFrames :
    Context.Interspersed watchedSession.frames crowdedFrames ∧
      (generate 2 .absent [.interpolation watchedName false]
        { watchedSession with frames := crowdedFrames }).2.store =
          evaluatedSession.store.write 0 watchedName (.text []) ∧
      (calls 2 .absent [.interpolation watchedName false]
        { watchedSession with frames := crowdedFrames }).countP (LambdaCall.isOf 0) = 1 := by
  have interspersed : Context.Interspersed watchedSession.frames crowdedFrames :=
    .insert (.inr (.inr rfl)) (.keep _ (.insert (.inr (.inl rfl)) (.keep _
      (.insert (.inl rfl) .nil))))
  obtain ⟨same, sameCalls⟩ :=
    generate_interspersed 2 .absent [.interpolation watchedName false] interspersed
  have counted := lambdas_generate 2 .absent [.interpolation watchedName false] watchedSession 0
  rw [generate_watchedSession] at counted
  refine ⟨interspersed, ?_, ?_⟩
  · rw [same]
    exact generate_watchedSession .absent
  · rw [sameCalls]
    have once := congrArg Lambda.calls (Option.some.inj counted)
    exact (once.trans (Nat.zero_add _)).symm

end Render

end Stencil
