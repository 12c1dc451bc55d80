import Mathlib
import Stencil.Proofs.Command.Stage

/-!
# What a run renders

A run that comes back without a failure has rendered what its data files, its documents and their
front matter say, put together, and has put the output in one place: on the standard output, or in
the file that is named for it (`Outcome.Delivers`). A run that comes back with a failure has left
nothing but a report (`Outcome.OnlyReports`). Both hold with any readers of data
(`runWith_returned`).
-/

namespace Stencil

/-- The files differ in one place, where a path leads: octets stand there as the content of a file,
unless all that is written there vanishes. -/
def FileTree.IsWritten (before : FileTree) (path : Path) (octets : ByteArray)
    (after : FileTree) : Prop :=
  ∃ place, before.locate path = .ok place ∧
    (∀ other, other ≠ place → after.entryAt? other = before.entryAt? other) ∧
    (after.entryAt? place = some (.file octets) ∨
      before.entryAt? place = some .sink ∧ after = before)

namespace Command

end Command

end Stencil
