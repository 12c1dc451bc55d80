import Stencil.Text.Quoted

/-!
# Delimiters

A tag stands between an opening and a closing delimiter. A template starts with a pair of its
caller's choosing and can change the pair for what follows.
-/

namespace Stencil

/-- The texts between which a tag stands. -/
structure Delimiters where
  opening : Text
  closing : Text
  deriving DecidableEq, Repr

namespace Delimiters

/-- Unless told otherwise, tags stand between doubled braces. -/
def standard : Delimiters :=
  ⟨.of "\x7b\x7b", .of "\x7d\x7d"⟩

/-- A pair as it is shown in reports: both delimiters quoted, in parentheses. -/
def quote (delimiters : Delimiters) : Text :=
  .of "(" ++ Text.Quoted.quote delimiters.opening ++ .of ", " ++
    Text.Quoted.quote delimiters.closing ++ .of ")"

end Delimiters

end Stencil
