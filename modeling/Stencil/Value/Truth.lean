import Stencil.Value.Store

/-!
# Truth of values

What is nothing, zero or empty is false; an object says so itself; everything else is true.
-/

namespace Stencil.Value

/-- Whether a value counts as true. -/
def truth (store : Store) : Value → Bool
  | .null => false
  | .bool value => value
  | .int value => value != 0
  | .float number => !number.isZero
  | .complex real imaginary => !(real.isZero && imaginary.isZero)
  | .text content => !content.isEmpty
  | .bytes octets => !octets.isEmpty
  | .list items | .tuple items => !items.isEmpty
  | .set address => !(store.items address).isEmpty
  | .duration length => !length.isZero
  | .range bound => decide (0 < bound)
  | .mapping address => !(store.entries address).isEmpty
  | .frozen entries => !entries.isEmpty
  | .object _ _ truth _ => truth
  | .cache => store.cache.size != 0
  | .date _ | .lambda _ | .builtIn _ => true

end Stencil.Value
