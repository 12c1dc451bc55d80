/-!
# Sets of characters by their boundaries

A property of characters that Unicode assigns is constant over long runs of code points. Such a
set is kept as the ascending list of the code points at which membership changes, beginning
outside: `[a, b, c]` is everything from `a` up to but not including `b`, and everything from `c` on.
-/

namespace Stencil.Text

/-- Membership of a code point in the set with the given boundaries. -/
def withinBoundaries (point : Nat) : List Nat → Bool
  | [] => false
  | [enter] => decide (enter ≤ point)
  | enter :: leave :: rest =>
    if point < enter then false
    else if point < leave then true
    else withinBoundaries point rest

end Stencil.Text
