import Stencil.Yaml.Token

/-!
# The structure of a YAML document

A document is a tree of scalars, sequences and mappings. The tokens of a document are its tree
written down: every collection has a token where it starts and one where it ends, with one
exception. The items of a sequence may stand in the column of the mapping that they are a value of;
then they have no tokens around them, and the sequence ends where no item follows.

Parts that are not written are empty scalars.
-/

namespace Stencil.Yaml

/-- The structure of a document, with the scalars as they are written. -/
inductive Tree where
  | scalar (content : Text) (isPlain : Bool)
  | sequence (items : List Tree)
  | mapping (entries : List (Tree × Tree))
  deriving Repr

/-- Where a node of the tree stands, which decides how it may be written. -/
inductive Position where
  /-- In a collection in flow form. -/
  | flow
  /-- As an item of a sequence in block form, or as the whole document. -/
  | item
  /-- As a key or a value of a mapping in block form, where items may stand without tokens around
  them. -/
  | entry
  deriving DecidableEq, Repr

/-- Whether a token ends the part of a collection that it stands behind. -/
def Token.endsPart : Token → Bool
  | .key | .value | .comma | .blockEnd | .flowSequenceEnd | .flowMappingEnd => true
  | _ => false

namespace Tree

/-- What is not written. -/
def empty : Tree :=
  .scalar [] true

/-- A part of a document and the tokens behind it. -/
abbrev Reading (α : Type) := Except Error (α × List Token)

/-- Goes on to the next part of a collection in flow form, if there is one: a comma has to be in
front of all parts but the first, and one may be behind the last. -/
def nextPart (closing : Token) (isFirst : Bool) (tokens : List Token) :
    Reading Bool :=
  match isFirst, tokens with
  | _, [] => .error .malformed
  | false, .comma :: rest =>
    if rest.head? = some closing then .ok (false, rest.tail) else .ok (true, rest)
  | _, token :: rest =>
    if token = closing then .ok (false, rest)
    else if isFirst then .ok (true, token :: rest)
    else .error .malformed

mutual

/-- A node, given a bound on the readers that are still to be called. -/
def node (position : Position) : Nat → List Token → Reading Tree
  | 0, _ => .error .malformed
  | bound + 1, tokens => match tokens with
    | .scalar content isPlain :: rest => .ok (.scalar content isPlain, rest)
    | .flowSequenceStart :: rest =>
      (flowItems true bound rest).map fun (items, after) => (.sequence items, after)
    | .flowMappingStart :: rest =>
      (flowEntries true bound rest).map fun (entries, after) => (.mapping entries, after)
    | .item :: rest =>
      if position = .entry then
        (items false bound (.item :: rest)).map fun (items, after) => (.sequence items, after)
      else .error .malformed
    | .sequenceStart :: rest =>
      if position = .flow then .error .malformed
      else (items true bound rest).map fun (items, after) => (.sequence items, after)
    | .mappingStart :: rest =>
      if position = .flow then .error .malformed
      else (entries bound rest).map fun (entries, after) => (.mapping entries, after)
    | _ => .error .malformed

/-- A node, or nothing where the part of a collection ends. -/
def part (position : Position) : Nat → List Token → Except Error (Tree × List Token)
  | 0, _ => .error .malformed
  | bound + 1, tokens =>
    if tokens.head?.any Token.endsPart then .ok (empty, tokens) else node position bound tokens

/-- An entry of a mapping behind the token of its key. -/
def entry (position : Position) : Nat → List Token → Except Error ((Tree × Tree) × List Token)
  | 0, _ => .error .malformed
  | bound + 1, tokens => do
    let (key, afterKey) ← part position bound tokens
    match afterKey with
    | .value :: rest =>
      let (value, after) ← part position bound rest
      return ((key, value), after)
    | _ => return ((key, empty), afterKey)

/-- The items of a sequence in block form, up to the token of its end if it has one. -/
def items (isClosed : Bool) : Nat → List Token → Except Error (List Tree × List Token)
  | 0, _ => .error .malformed
  | bound + 1, tokens => match tokens with
    | .item :: rest => do
      let (first, afterFirst) ←
        if rest.head? = some .item then pure (empty, rest) else part .item bound rest
      let (more, after) ← items isClosed bound afterFirst
      return (first :: more, after)
    | .blockEnd :: rest => .ok ([], if isClosed then rest else .blockEnd :: rest)
    | _ => if isClosed then .error .malformed else .ok ([], tokens)

/-- The entries of a mapping in block form up to its end. -/
def entries : Nat → List Token → Except Error (List (Tree × Tree) × List Token)
  | 0, _ => .error .malformed
  | bound + 1, tokens => match tokens with
    | .key :: rest => do
      let (first, afterFirst) ← entry .entry bound rest
      let (more, after) ← entries bound afterFirst
      return (first :: more, after)
    | .blockEnd :: rest => .ok ([], rest)
    | _ => .error .malformed

/-- The items of a sequence in flow form up to its end. An item can be a single entry. -/
def flowItems (isFirst : Bool) : Nat → List Token → Except Error (List Tree × List Token)
  | 0, _ => .error .malformed
  | bound + 1, tokens => do
    let (isThere, tokens) ← nextPart .flowSequenceEnd isFirst tokens
    if !isThere then return ([], tokens)
    let (first, afterFirst) ← match tokens with
      | .key :: rest =>
        (entry .flow bound rest).map fun (single, after) => (Tree.mapping [single], after)
      | _ => node .flow bound tokens
    let (more, after) ← flowItems false bound afterFirst
    return (first :: more, after)

/-- The entries of a mapping in flow form up to its end. An entry can be a key alone. -/
def flowEntries (isFirst : Bool) :
    Nat → List Token → Except Error (List (Tree × Tree) × List Token)
  | 0, _ => .error .malformed
  | bound + 1, tokens => do
    let (isThere, tokens) ← nextPart .flowMappingEnd isFirst tokens
    if !isThere then return ([], tokens)
    let (first, afterFirst) ← match tokens with
      | .key :: rest => entry .flow bound rest
      | _ => (node .flow bound tokens).map fun (key, after) => ((key, empty), after)
    let (more, after) ← flowEntries false bound afterFirst
    return (first :: more, after)

end

/-- The tree of the only document that tokens make up. A mark of its start may be in front of it,
and any number of marks of its end behind it. -/
def ofTokens (tokens : List Token) : Except Error Tree := do
  let bound := 4 * tokens.length + 4
  let (tree, rest) ← match tokens with
    | [] => pure (empty, [])
    | .documentStart :: rest =>
      match rest with
      | [] | .documentStart :: _ | .documentEnd :: _ => pure (empty, rest)
      | _ => node .item bound rest
    | _ => node .item bound tokens
  if (rest.dropWhile (· == .documentEnd)).isEmpty then return tree else throw .malformed

end Tree

end Stencil.Yaml
