import Stencil.Yaml.Scalar
import Stencil.Yaml.Tree

/-!
# Reading YAML documents

The data of a document are those of its tree, with every plain scalar as what it looks like. Keys
must be scalars. Of several entries with one key the last one counts, in the place of the first.

A document with several faults in its data is refused for the one that is the least deep, and of
these for the first. A fault in the structure comes before all of them.
-/

namespace Stencil.Yaml

/-- A fault in the data of a document. -/
structure Fault where
  /-- The number of collections around it. -/
  depth : Nat
  error : Error

namespace Fault

/-- Of two faults the less deep one, and of those of one depth the first. -/
def first (earlier later : Fault) : Fault :=
  if later.depth < earlier.depth then later else earlier

/-- Two parts of the data. -/
def both {α β : Type} : Except Fault α → Except Fault β → Except Fault (α × β)
  | .ok former, .ok latter => .ok (former, latter)
  | .ok _, .error fault => .error fault
  | .error fault, .ok _ => .error fault
  | .error earlier, .error later => .error (earlier.first later)

/-- What is refused at a depth is a fault. -/
def at? {α : Type} (depth : Nat) (outcome : Except Error α) : Except Fault α :=
  outcome.mapError fun error => ⟨depth, error⟩

end Fault

namespace Tree

/-- The key that a tree stands for. -/
def key : Tree → Except Error Key
  | .scalar content true => resolveKey content
  | .scalar content false => .ok (.text content)
  | .sequence _ | .mapping _ => .error .malformed

mutual

/-- The data of a tree that has a number of collections around it. -/
def datum (depth : Nat) : Tree → Except Fault Datum
  | .scalar content true => Fault.at? depth (resolve content)
  | .scalar content false => .ok (.text content)
  | .sequence items => (itemData (depth + 1) items).map .list
  | .mapping entries => (entryData (depth + 1) entries).map fun found =>
    .mapping (Entries.ofList found)

/-- The data of the items of a sequence. -/
def itemData (depth : Nat) : List Tree → Except Fault (List Datum)
  | [] => .ok []
  | first :: rest =>
    (Fault.both (datum depth first) (itemData depth rest)).map fun (head, tail) => head :: tail

/-- The data of the entries of a mapping. -/
def entryData (depth : Nat) : List (Tree × Tree) → Except Fault (List (Key × Datum))
  | [] => .ok []
  | (name, value) :: rest =>
    let first := Fault.both (Fault.at? depth name.key) (datum depth value)
    (Fault.both first (entryData depth rest)).map fun (head, tail) => head :: tail

end

/-- Where the data of a tree are a mapping, its keys are different from each other. -/
theorem areDistinct_of_datum {depth : Nat} {tree : Tree} {entries : Record}
    (found : tree.datum depth = .ok (.mapping entries)) : Entries.AreDistinct entries := by
  cases tree with
  | scalar content isPlain =>
    cases isPlain with
    | true =>
      rw [datum, Fault.at?] at found
      cases outcome : resolve content with
      | ok data =>
        rw [outcome] at found
        cases found
        exact absurd outcome (resolve_ne_mapping content entries)
      | error error =>
        rw [outcome] at found
        cases found
    | false =>
      rw [datum] at found
      cases found
  | sequence items =>
    rw [datum] at found
    cases outcome : itemData (depth + 1) items <;> rw [outcome] at found <;> cases found
  | mapping members =>
    rw [datum] at found
    cases outcome : entryData (depth + 1) members with
    | ok list =>
      rw [outcome] at found
      cases found
      exact Entries.areDistinct_ofList list
    | error fault =>
      rw [outcome] at found
      cases found

end Tree

/-- The data of a document. A byte order mark in front of it is no part of it. -/
def read (document : Text) : Except Error Datum := do
  if !document.all isAllowed then throw .malformed
  let text := match unifyBreaks document with
    | .char '\uFEFF' :: rest => rest
    | text => text
  let tree ← Tree.ofTokens (← tokens text)
  (tree.datum 0).mapError Fault.error

/-- Where a document is a mapping, its keys are different from each other. -/
theorem areDistinct_of_read {document : Text} {entries : Record}
    (found : read document = .ok (.mapping entries)) : Entries.AreDistinct entries := by
  unfold read at found
  simp only [Bind.bind, Except.bind] at found
  split at found
  · cases found
  split at found
  · cases found
  split at found
  · cases found
  rename_i tree _
  cases outcome : tree.datum 0 with
  | ok data =>
    rw [outcome] at found
    cases found
    exact Tree.areDistinct_of_datum outcome
  | error fault =>
    rw [outcome] at found
    cases found

end Stencil.Yaml
