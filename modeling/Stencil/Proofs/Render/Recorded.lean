import Stencil.Proofs.Render.Outcome

/-!
# Computations with a record of their calls

What a computation comes to does not tell which lambdas it has called on the way, in which order and
with which texts. A recorded computation is one together with the calls that it makes in a session
(`Recorded`), and a record cannot miss a lambda: the store counts the same calls
(`Recorded.counted`).

A computation that leaves the lambdas as they are (`Render.Quiet`) has an empty record. Recorded
computations are put together from such ones, from calls, and from each other.
-/

namespace Stencil

/-- A call of a lambda: the lambda, the number of things that it is given, and the text among
them. -/
structure LambdaCall where
  function : Value
  isLambda : function.kind = .lambda
  given : Nat
  raw : Text

/-- Whether a call is one of the lambda at an address. -/
def LambdaCall.isOf (address : Nat) (call : LambdaCall) : Bool :=
  match call.function with
  | .lambda called => called == address
  | _ => false

/-- A lambda that was called some more times. -/
def Lambda.calledAgain (times : Nat) (lambda : Lambda) : Lambda :=
  { lambda with calls := lambda.calls + times }

/-- A lambda that was not called again is the same. -/
theorem Lambda.calledAgain_zero : Lambda.calledAgain 0 = id :=
  rfl

/-- Calls are counted one after the other. -/
theorem Lambda.calledAgain_calledAgain (times more : Nat) (lambda : Lambda) :
    (lambda.calledAgain times).calledAgain more = lambda.calledAgain (times + more) :=
  congrArg (Lambda.mk lambda.behaviour) (Nat.add_assoc _ _ _)

/-! ## What calls no lambda -/

namespace Render

variable {α β : Type}

/-- A computation leaves the lambdas as they are. -/
def Quiet (computation : Render α) : Prop :=
  ∀ session, (computation session).2.store.lambdas = session.store.lambdas

/-- Doing nothing is quiet. -/
theorem quiet_pure (value : α) : Quiet (pure value) :=
  fun _ => rfl

/-- Failing is quiet. -/
theorem quiet_throw (failure : Failure) : Quiet (throw failure : Render α) :=
  fun _ => rfl

/-- Looking at the session is quiet. -/
theorem quiet_get : Quiet get :=
  fun _ => rfl

/-- One computation after the other is quiet if both are. -/
theorem Quiet.bind {first : Render α} {next : α → Render β} (begins : Quiet first)
    (continues : ∀ value, Quiet (next value)) : Quiet (first >>= next) := by
  intro session
  cases ran : first session with
  | mk result between =>
    have leaves : between.store.lambdas = session.store.lambdas :=
      (congrArg (fun outcome => outcome.2.store.lambdas) ran).symm.trans (begins session)
    cases result with
    | ok value =>
      rw [bind_of_ok ran]
      exact (continues value between).trans leaves
    | error failure =>
      rw [bind_of_error ran]
      exact leaves

/-- Adding a log line is quiet. -/
theorem quiet_note (event : LogEvent) : Quiet (note event) :=
  fun _ => rfl

/-- Being quiet is a property of what computations are put together from. -/
theorem quiet : Compositional fun _ => Quiet where
  pure := quiet_pure
  throw := quiet_throw
  get := quiet_get
  note := quiet_note
  miss := fun _ => rfl
  bind := Quiet.bind

/-- Parsing is quiet. -/
theorem quiet_parse (delimiters : Delimiters) (template : Text) :
    Quiet (parse delimiters template) :=
  fun _ => rfl

/-- Writing a value is quiet. -/
theorem quiet_write (address : Nat) (name : Text) (value : Value) :
    Quiet (write address name value) :=
  fun _ => rfl

/-- Writing over a lambda is quiet. -/
theorem quiet_remember (frame : Option Value) (name text : Text) :
    Quiet (remember frame name text) := by
  unfold remember
  split
  · exact quiet_write _ _ _
  · exact quiet_pure _

/-- Calling a function of a set is quiet. -/
theorem quiet_callOfSet (function : SetFunction) (address given : Nat) (raw : Text) :
    Quiet (callOfSet function address given raw) := by
  intro session
  obtain same | ⟨change, same⟩ := callOfSet_snd function address given raw session
  · rw [same]
  · rw [same]
    rfl

/-- Calling a function that a value brings along is quiet. -/
theorem quiet_callBuiltIn (given : Nat) (raw : Text) (function : BuiltIn) :
    Quiet (callBuiltIn given raw function) := by
  cases function with
  | refusing => exact quiet_throw _
  | ofSet function address => exact quiet_callOfSet function address given raw

/-- Finding the partials of a view is quiet. -/
theorem quiet_partialsOrOwn (self partials : Value) : Quiet (partialsOrOwn self partials) := by
  cases partials with
  | null => exact quiet.partialsOf self
  | _ => exact quiet_pure _

end Render

/-! ## Recorded computations -/

/-- A computation, and the calls of lambdas that it makes in a session, in their order. -/
structure Recorded (α : Type) where
  run : Render α
  calls : Session → List LambdaCall
  /-- As many calls of a lambda are made as the lambda counts. -/
  counted : ∀ session address,
    (run session).2.store.lambdas[address]? = session.store.lambdas[address]?.map
      (Lambda.calledAgain ((calls session).countP (LambdaCall.isOf address)))

namespace Recorded

variable {α β : Type}

/-- A computation that makes no calls. -/
def silent (run : Render α) (quiet : Render.Quiet run) : Recorded α where
  run := run
  calls _ := []
  counted session address := by
    rw [quiet session, List.countP_nil, Lambda.calledAgain_zero, Option.map_id_fun, id]

/-- A computation that is a call of something other than the lambda at an address, which counts
none. -/
def calling (call : LambdaCall) (run : Render α) (quiet : Render.Quiet run)
    (uncounted : ∀ address, call.isOf address = false) : Recorded α where
  run := run
  calls _ := [call]
  counted session address := by
    rw [quiet session, List.countP_singleton, uncounted, if_neg Bool.false_ne_true,
      Lambda.calledAgain_zero, Option.map_id_fun, id]

/-- The beginning of a call of the lambda at an address, which counts it. -/
def counting (address given : Nat) (raw : Text) : Recorded Unit where
  run := modify fun session => { session with store := session.store.countCall address }
  calls _ := [⟨.lambda address, rfl, given, raw⟩]
  counted session other := by
    rw [List.countP_singleton]
    change (session.store.lambdas.modify address _)[other]? = _
    rw [Array.getElem?_modify]
    by_cases same : address = other
    · simp only [same, LambdaCall.isOf, beq_self_eq_true, if_true]
      rfl
    · simp only [same, LambdaCall.isOf, beq_eq_false_iff_ne.mpr same, if_false,
        Bool.false_eq_true]
      rw [Lambda.calledAgain_zero, Option.map_id_fun, id]

/-- The calls that are made after a computation. -/
def callsAfter (next : α → Recorded β) : Except Failure α × Session → List LambdaCall
  | (.ok value, between) => (next value).calls between
  | (.error _, _) => []

/-- One computation after the other. -/
def andThen (first : Recorded α) (next : α → Recorded β) : Recorded β where
  run := first.run >>= fun value => (next value).run
  calls session := first.calls session ++ callsAfter next (first.run session)
  counted session address := by
    have begins := first.counted session address
    rw [List.countP_append]
    cases ran : first.run session with
    | mk result between =>
      rw [ran] at begins
      cases result with
      | ok value =>
        rw [bind_of_ok ran, (next value).counted between address, begins, Option.map_map]
        exact congrArg (Option.map · _) (funext (Lambda.calledAgain_calledAgain _ _))
      | error failure =>
        rw [bind_of_error ran]
        exact begins

instance : Monad Recorded where
  pure value := silent (pure value) (Render.quiet_pure value)
  bind := andThen

/-- One computation after the other is run as such. -/
@[simp] theorem run_bind (first : Recorded α) (next : α → Recorded β) :
    (first >>= next).run = first.run >>= fun value => (next value).run :=
  rfl

/-- The calls of two computations are those of the first one and those after it. -/
theorem calls_bind (first : Recorded α) (next : α → Recorded β) (session : Session) :
    (first >>= next).calls session =
      first.calls session ++ callsAfter next (first.run session) :=
  rfl

/-- A failure. -/
def fail (failure : Failure) : Recorded α :=
  silent (throw failure) (Render.quiet_throw failure)

/-- A look at the session. -/
def look : Recorded Session :=
  silent get Render.quiet_get

/-- Parsing a template. -/
def parse (delimiters : Delimiters) (template : Text) : Recorded (List Node) :=
  silent (Render.parse delimiters template) (Render.quiet_parse delimiters template)

/-- What a template outputs for a value. -/
def displayed (value : Value) : Recorded Text :=
  silent (Render.displayed value) (Render.quiet.displayed value)

/-- A computation whose failure is passed over. -/
def attempt (inner : Recorded Text) : Recorded (Option Text) where
  run := Render.attempt inner.run
  calls := inner.calls
  counted := inner.counted

/-- A computation with one more frame inside the present ones. -/
def withFrame (frame : Value) (inner : Recorded α) : Recorded α where
  run := Render.withFrame frame inner.run
  calls session := inner.calls { session with frames := frame :: session.frames }
  counted session := inner.counted { session with frames := frame :: session.frames }

/-- A computation with other frames in the place of the present ones. -/
def withFrames (frames : List Value) (inner : Recorded α) : Recorded α where
  run := Render.withFrames frames inner.run
  calls session := inner.calls { session with frames := frames }
  counted session := inner.counted { session with frames := frames }

/-- The results of a computation for each item, joined. -/
def joinEach (render : α → Recorded Text) : List α → Recorded Text
  | [] => pure []
  | item :: items => do
    let first ← render item
    let others ← joinEach render items
    return first ++ others

/-- Texts that are joined are run as such. -/
theorem run_joinEach (render : α → Recorded Text) (items : List α) :
    (joinEach render items).run = Render.joinEach (fun item => (render item).run) items := by
  induction items with
  | nil => rfl
  | cons item items inductionHypothesis =>
    rw [Render.joinEach_cons, ← inductionHypothesis]
    rfl

end Recorded

end Stencil
