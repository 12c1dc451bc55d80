import Stencil.Proofs.Cache.Blank
import Stencil.Proofs.Cache.Residue

/-!
# The effects of rendering

Whatever is rendered, however deep it goes, and whether it fails or not: the frames are afterwards
what they were before, and what is left behind in the data is confined to the deeds of the course
that was taken (`Render.confined_generate`). Where no lambda writes by itself, the deeds are that
lambdas were evaluated to texts in mappings that can be come by from the frames, or from the
partials where these are a view, and that functions of sets were called.

Data does not mean the cache, which counts what it is asked for even where it is itself a value
among the frames; and partials that can be come by from the frames are data like all else
(`Render.cache_and_partials_change`).
-/

namespace Stencil

namespace Render

/-- A name under which one of the frames holds something. -/
def watchedName : Text :=
  .of "p"

/-- A session in which the cache is a frame, and so is a mapping with a lambda that answers with an
empty text. -/
def watchedSession : Session where
  store :=
    { Store.empty (.empty none) with
      mappings := #[[(.text watchedName, .lambda 0)]]
      lambdas := #[⟨fun _ => .returns (.text []), 0⟩] }
  frames := [.mapping 0, .cache]
  files := ⟨[]⟩
  log := []

/-- The session in which the answer of the lambda is rendered. -/
def answeredSession : Session :=
  { watchedSession with store := watchedSession.store.countCall 0 }

/-- The session in which the lambda is written over. -/
def evaluatedSession : Session :=
  (parse .standard [] answeredSession).2

/-- The lambda is written over. -/
theorem generate_watchedSession (partials : Partials) :
    (generate 2 partials [.interpolation watchedName false] watchedSession).2.store =
      evaluatedSession.store.write 0 watchedName (.text []) := by
  have isBlank : answeredSession.store.cache.IsBlank := .empty none
  have found : Context.find? watchedSession.store watchedName watchedSession.frames =
      some (0, .mapping 0, .stored (.lambda 0)) := rfl
  change (interpolation (generate 1) partials watchedName false watchedSession).2.store = _
  rw [interpolation_of_blank false found rfl rfl isBlank]
  rfl

end Render

end Stencil
