import Stencil.Proofs.Render.Conduct

/-!
# What rendering maintains

All that rendering does to a store are six things: it parses through the cache, asks the cache in
vain, clears the cache, writes into mappings, changes sets, and counts calls. A property of
stores that all of these preserve (`Store.Invariant`) is preserved along every course
(`Session.Course.preserves`), and so maintained by rendering, whether it fails or not
(`Render.maintains_template`, `Render.maintains_callRender`).
-/

namespace Stencil

/-- A property of stores that holds on whatever rendering does to them. -/
structure Store.Invariant (property : Store → Prop) : Prop where
  parse : ∀ store delimiters template, property store →
    property { store with cache := (store.cache.parse delimiters template).cache }
  miss : ∀ store, property store → property { store with cache := store.cache.miss }
  clear : ∀ store, property store → property { store with cache := store.cache.clear }
  write : ∀ store address name value, property store → property (store.write address name value)
  changeSet : ∀ store address change, property store → property (store.changeSet address change)
  countCall : ∀ store address, property store → property (store.countCall address)

variable {property : Store → Prop}

/-- What every single thing preserves holds at the end of a course. -/
theorem Session.Course.preserves (invariant : Store.Invariant property) {before after : Session}
    {region : Region} {deeds : List Deed} (course : before.Course region deeds after)
    (holds : property before.store) : property after.store := by
  induction course with
  | stay => exact holds
  | trans _ _ firstPreserves nextPreserves => exact nextPreserves (firstPreserves holds)
  | note => exact holds
  | @parse session delimiters template =>
    exact invariant.parse session.store delimiters template holds
  | miss => exact invariant.miss _ holds
  | clear => exact invariant.clear _ holds
  | count address => exact invariant.countCall _ address holds
  | @callSet session function address given raw =>
    obtain same | ⟨change, same⟩ := Render.callOfSet_snd function address given raw session
    · rw [same]
      exact holds
    · rw [same]
      exact invariant.changeSet session.store address change holds
  | write name _ _ => exact invariant.write _ _ name _ holds
  | within _ _ innerPreserves => exact innerPreserves holds
  | apart _ _ innerPreserves => exact innerPreserves holds
  | @evaluate _ _ address name _ text _ _ _ _ _ _ _ _ innerPreserves =>
    exact invariant.write _ address name (.text text) (innerPreserves holds)

namespace Render

/-- A property of the store that holds before a computation holds after it. -/
def Maintains {α : Type} (property : Store → Prop) (computation : Render α) : Prop :=
  ∀ session, property session.store → property (computation session).2.store

/-- What is on course maintains an invariant. -/
theorem OnCourse.maintains {α : Type} {computation : Render α} (runs : OnCourse .all computation)
    (invariant : Store.Invariant property) : Maintains property computation := by
  intro session holds
  obtain ⟨deeds, course⟩ := runs session session.isInside_all
  exact course.preserves invariant holds

/-- Rendering a template maintains an invariant. -/
theorem maintains_template (invariant : Store.Invariant property) (partials : Partials)
    (delimiters : Delimiters) (text : Text) (data : Value) :
    Maintains property (template partials delimiters text data) :=
  (onCourse_template (fun _ _ => trivial) delimiters text trivial).maintains invariant

/-- Asking a view to render maintains an invariant. -/
theorem maintains_callRender (invariant : Store.Invariant property)
    (self template data partials : Value) :
    Maintains property (View.callRender self template data partials) :=
  (onCourse_callRender self template data partials).maintains invariant

end Render

end Stencil
