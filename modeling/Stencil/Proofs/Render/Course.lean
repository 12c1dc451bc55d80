import Stencil.Proofs.Render.Confined
import Stencil.View.Call

/-!
# What rendering does to a session

Rendering adds log lines, parses through the cache, asks the cache in vain, clears it, counts calls,
and calls the functions of sets; lambdas write to mappings by themselves; rendering goes on after
what was done before, with one more frame, or in frames of its own; and it writes over a lambda what
the lambda was evaluated to. `Session.Course` is what leads in these ways from one session to
another, with the deeds on the way. It stays in a region: the frames that are put in place are
values of the region, and so are the lambdas that write.

A course ends with the frames that it began with (`Session.Course.frames_eq`). What it leaves behind
in the data is confined to its deeds (`Session.Course.confined`), and these are done in the region
(`Session.Course.isInside_of_evaluated`). If the store enclosed the region before, it does
afterwards (`Session.Course.isInside`).
-/

namespace Stencil

/-- What a lambda that stands for a value is evaluated to: its answer, rendered. -/
def Render.evaluation (deeper : Render.Deeper) (partials : Partials) (function : Value) :
    Render Text := do
  let answer ← displayed (← call function 1 [] (expand deeper partials .standard))
  expand deeper partials .standard answer

/-- From one session to another by what rendering does in a region, and the deeds on the way in
their order. -/
inductive Session.Course (region : Region) : Session → List Deed → Session → Prop where
  | stay {session} : Course region session [] session
  | trans {before deeds between more after} (first : Course region before deeds between)
      (next : Course region between more after) : Course region before (deeds ++ more) after
  | note {session} (event : LogEvent) :
      Course region session [] { session with log := event :: session.log }
  | parse {session} (delimiters : Delimiters) (template : Text) :
      Course region session [] (Render.parse delimiters template session).2
  | miss {session} :
      Course region session []
        { session with store := { session.store with cache := session.store.cache.miss } }
  | clear {session} :
      Course region session []
        { session with store := { session.store with cache := session.store.cache.clear } }
  | count {session} (address : Nat) :
      Course region session [] { session with store := session.store.countCall address }
  | callSet {session} (function : SetFunction) (address given : Nat) (raw : Text) :
      Course region session [.calledSet address]
        (Render.callOfSet function address given raw session).2
  /-- A lambda that may come to write a value writes it. -/
  | write {session address place value} (name : Text) (isInside : region (.lambda address))
      (writes : session.store.Writes address place value) :
      Course region session [.wrote place]
        { session with store := session.store.write place name value }
  /-- There is one more frame meanwhile. -/
  | within {session frame deeds after} (isInside : region frame)
      (inner : Course region { session with frames := frame :: session.frames } deeds after) :
      Course region session deeds { after with frames := after.frames.tail }
  /-- There are other frames meanwhile, as for a view that is asked for its rendering. -/
  | apart {session frames deeds after} (areInside : ∀ frame ∈ frames, region frame)
      (inner : Course region { session with frames := frames } deeds after) :
      Course region session deeds { after with frames := session.frames }
  /-- The lambda is the one that was there before it was evaluated. Evaluating it may evaluate it
  again, so that a text may be there by the time it is written over. -/
  | evaluate {depth partials address name function text before deeds after}
      (isFrame : .mapping address ∈ before.frames)
      (held : (before.store.entries address).lookup (.text name) = some function)
      (isLambda : function.kind = .lambda)
      (completes : Render.evaluation (Render.generate depth) partials function before =
        (.ok text, after))
      (inner : Course region before deeds after) :
      Course region before (deeds ++ [.evaluated address name function text])
        { after with store := after.store.write address name (.text text) }

/-- The frames of a session are in a region that its store encloses. -/
structure Session.IsInside (region : Region) (session : Session) : Prop where
  encloses : session.store.Encloses region
  frames : ∀ frame ∈ session.frames, region frame

/-- Every session is in the region of all values. -/
theorem Session.isInside_all (session : Session) : session.IsInside .all :=
  ⟨session.store.encloses_all, fun _ _ => trivial⟩

/-- Calling a function of a set changes nothing or this set. -/
theorem Render.callOfSet_snd (function : SetFunction) (address given : Nat) (raw : Text)
    (session : Session) :
    (callOfSet function address given raw session).2 = session ∨
      ∃ change, (callOfSet function address given raw session).2 =
        { session with store := session.store.changeSet address change } := by
  unfold callOfSet
  split
  · exact .inr ⟨_, rfl⟩
  · exact .inl rfl
  · exact .inl rfl
  · exact .inr ⟨_, rfl⟩
  · exact .inr ⟨_, rfl⟩
  · exact .inl rfl

namespace Session.Course

variable {region : Region} {before after : Session} {deeds : List Deed}

/-- A course ends with the frames that it began with. -/
theorem frames_eq (course : before.Course region deeds after) : after.frames = before.frames := by
  induction course with
  | stay => rfl
  | trans _ _ firstFrames nextFrames => exact nextFrames.trans firstFrames
  | note => rfl
  | parse => rfl
  | miss => rfl
  | clear => rfl
  | count => rfl
  | @callSet session function address given raw =>
    obtain same | ⟨change, same⟩ := Render.callOfSet_snd function address given raw session
    · rw [same]
    · rw [same]
  | write => rfl
  | within _ _ innerFrames => exact congrArg List.tail innerFrames
  | apart => rfl
  | evaluate _ _ _ _ _ innerFrames => exact innerFrames

/-- A course leaves behind in the data what is confined to its deeds. -/
theorem confined (course : before.Course region deeds after) :
    before.store.Confined deeds after.store := by
  induction course with
  | stay => exact .of_eq rfl rfl rfl
  | trans _ _ firstConfined nextConfined => exact firstConfined.trans nextConfined
  | note => exact .of_eq rfl rfl rfl
  | parse => exact .of_eq rfl rfl rfl
  | miss => exact .of_eq rfl rfl rfl
  | clear => exact .of_eq rfl rfl rfl
  | @count session address => exact .countCall session.store address
  | @callSet session function address given raw =>
    obtain same | ⟨change, same⟩ := Render.callOfSet_snd function address given raw session
    · rw [same]
      have unchanged : session.store.Confined [] session.store := .of_eq rfl rfl rfl
      exact unchanged.mono (List.nil_subset _)
    · rw [same]
      exact .changeSet session.store address change
  | @write session _ place value name => exact .wrote session.store place name value
  | within _ _ innerConfined => exact innerConfined
  | apart _ _ innerConfined => exact innerConfined
  | evaluate _ held isLambda _ _ innerConfined => exact innerConfined.write held isLambda

/-- A course that begins in a region ends there. -/
theorem isInside (course : before.Course region deeds after) (isInside : before.IsInside region) :
    after.IsInside region := by
  refine ⟨?_, course.frames_eq ▸ isInside.frames⟩
  induction course with
  | stay => exact isInside.encloses
  | @trans _ _ _ _ _ first _ firstEncloses nextEncloses =>
    exact nextEncloses ⟨firstEncloses isInside, first.frames_eq ▸ isInside.frames⟩
  | note => exact isInside.encloses
  | parse => exact isInside.encloses.congr rfl rfl
  | miss => exact isInside.encloses.congr rfl rfl
  | clear => exact isInside.encloses.congr rfl rfl
  | @count session address =>
    exact isInside.encloses.congr rfl (Store.Confined.countCall session.store address).behaviours
  | @callSet session function address given raw =>
    obtain same | ⟨change, same⟩ := Render.callOfSet_snd function address given raw session
    · rw [same]
      exact isInside.encloses
    · rw [same]
      exact isInside.encloses.congr rfl rfl
  | write name lambdaInside writes =>
    exact isInside.encloses.write
      (isInside.encloses.step _ _ lambdaInside (.written writes)) _ name
  | within frameInside _ innerEncloses =>
    exact innerEncloses ⟨isInside.encloses, List.forall_mem_cons.mpr ⟨frameInside, isInside.frames⟩⟩
  | apart areInside _ innerEncloses => exact innerEncloses ⟨isInside.encloses, areInside⟩
  | evaluate _ _ _ _ _ innerEncloses =>
    exact (innerEncloses isInside).write (isInside.encloses.leaf _ (.scalar rfl)) _ _

/-- Where no lambda of the region writes, none does on a course. -/
theorem not_wrote (course : before.Course region deeds after)
    (nothing : before.store.WritesNothing region) (address : Nat) : .wrote address ∉ deeds := by
  intro wrote
  induction course with
  | trans first _ firstNot nextNot =>
    rcases List.mem_append.mp wrote with early | late
    · exact firstNot nothing early
    · exact nextNot (nothing.congr first.confined.behaviours) late
  | write name isInside writes => exact nothing _ _ _ isInside writes
  | within _ _ innerNot => exact innerNot nothing wrote
  | apart _ _ innerNot => exact innerNot nothing wrote
  | evaluate _ _ _ _ _ innerNot =>
    rcases List.mem_append.mp wrote with early | last
    · exact innerNot nothing early
    · cases List.mem_singleton.mp last
  | callSet => cases List.mem_singleton.mp wrote
  | _ => cases wrote

end Session.Course

end Stencil
