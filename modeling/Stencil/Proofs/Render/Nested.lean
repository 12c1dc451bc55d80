import Stencil.Proofs.Cache.History
import Stencil.Proofs.Render.Indentation
import Stencil.Proofs.Value.Lead

/-!
# Nested inclusions

An inclusion whose text is an inclusion again hands its indentation on: the indented line is a line
that is an inclusion with more blanks in front of it (`InclusionLine.indentedBut_written`). So what
stands at the end of a nesting is indented by all of them together (`Render.nested_indented`).

All of this goes through a cache. It is required of it that it is true to the texts that come up
(`Cache.IsTrueTo`), as a new one is to every text. A section body with the text of an inclusion can
have taken its place there, and then the indentation is lost (`Render.line_hidden_by_body`).
-/

namespace Stencil

/-! ## Indented texts without a tag -/

namespace Text

/-- An opening delimiter is two braces, at the start of a text or further on. -/
theorem holds_opening_cons (point : CodePoint) (rest : Text) :
    holds (.of "\x7b\x7b") (point :: rest) =
      ((point == .char '\x7b' && rest.head? == some (.char '\x7b')) ||
        holds (.of "\x7b\x7b") rest) := by
  have begins : (after? (.of "\x7b\x7b") (point :: rest)).isSome =
      (point == .char '\x7b' && rest.head? == some (.char '\x7b')) := by
    by_cases isFirst : point = .char '\x7b'
    · cases rest with
      | nil => simp [of, after?]
      | cons second rest =>
        by_cases isSecond : second = .char '\x7b'
        · simp [of, after?, isFirst, isSecond]
        · simp [of, after?, isFirst, isSecond, Ne.symm isSecond]
    · simp [of, after?, isFirst, Ne.symm isFirst]
  rw [← begins, holds]

/-- Blanks in front of a text are no part of an opening delimiter. -/
theorem holds_opening_append {blank : Text} (areBlank : ∀ point ∈ blank, isBlank point = true)
    (rest : Text) : holds (.of "\x7b\x7b") (blank ++ rest) = holds (.of "\x7b\x7b") rest := by
  induction blank with
  | nil => rfl
  | cons point blank inductionHypothesis =>
    obtain ⟨isBlank, further⟩ := List.forall_mem_cons.mp areBlank
    have notBrace : (point == .char '\x7b') = false := beq_false_of_ne (by
      rintro rfl
      exact absurd isBlank (by decide))
    rw [List.cons_append, holds_opening_cons, notBrace, inductionHypothesis further]
    rfl

end Text

section Indenting

variable {indent : Text}

/-- Within a line, indenting does not change what a text begins with. -/
theorem head?_indentLines (text : Text) : (indentLines indent false text).head? = text.head? := by
  cases text <;> simp [indentLines]

/-- Indenting by blanks makes no opening delimiter. -/
theorem holds_opening_indentLines (areBlank : ∀ point ∈ indent, Text.isBlank point = true)
    (atLineStart : Bool) (text : Text) :
    Text.holds (.of "\x7b\x7b") (indentLines indent atLineStart text) =
      Text.holds (.of "\x7b\x7b") text := by
  induction text generalizing atLineStart with
  | nil => rfl
  | cons point rest inductionHypothesis =>
    have unchanged : Text.holds (.of "\x7b\x7b")
        (point :: indentLines indent (point == .char '\n') rest) =
          Text.holds (.of "\x7b\x7b") (point :: rest) := by
      rw [Text.holds_opening_cons, Text.holds_opening_cons, inductionHypothesis]
      by_cases isBrace : point = .char '\x7b'
      · have onOneLine : (point == .char '\n') = false := by
          rw [isBrace]
          rfl
        rw [onOneLine, head?_indentLines]
      · simp only [beq_false_of_ne isBrace, Bool.false_and]
    rw [indentLines]
    split
    · rw [Text.holds_opening_append areBlank, unchanged]
    · exact unchanged

end Indenting

namespace InclusionLine

/-- The line with more blanks in front of it. -/
def behind (line : InclusionLine) (outer : Text)
    (isBlank : ∀ point ∈ outer, Text.isBlank point = true) : InclusionLine :=
  { line with
    indent := outer ++ line.indent
    isBlank := fun point inside =>
      (List.mem_append.mp inside).elim (isBlank point) (line.isBlank point) }

/-- Indenting the line puts more blanks in front of it. -/
theorem indentedBut_written (line : InclusionLine) {outer : Text}
    (isBlank : ∀ point ∈ outer, Text.isBlank point = true) :
    line.written.indentedBut Text.Line.isBare outer = (line.behind outer isBlank).written := by
  have onOneLine : .char '\n' ∉ line.indent ++ Tag.includes line.name := by
    intro inside
    rcases List.mem_append.mp inside with isIndent | isTag
    · exact absurd (line.isBlank _ isIndent) (by decide)
    · have isName : .char '\n' ∈ line.name := by simpa [Tag.includes, Text.of] using isTag
      exact absurd (line.isWord _ isName) (by decide)
  obtain ⟨first, content, isLine⟩ : ∃ first content, line.indent ++ Tag.includes line.name =
      first :: content := List.exists_cons_of_ne_nil (by simp [Tag.includes, Text.of])
  have notFeed : first ≠ .char '\n' := by
    rintro rfl
    exact onOneLine (isLine ▸ List.mem_cons_self)
  have unchanged : indentLines outer false line.written = line.written := by
    rw [written, ← List.append_assoc, indentLines_append onOneLine]
    rfl
  have asLine : line.written = first :: (content ++ Text.of "\n") := by
    rw [written, ← List.append_assoc, isLine, List.cons_append]
  have indented : indentLines outer true line.written = outer ++ line.written := by
    rw [asLine, indentLines_cons, if_neg notFeed, ← asLine, unchanged]
  rw [← indentLines_eq, indented]
  simp [written, behind]

/-- The text of the first of several inclusions, each of which has the next one for its text. The
last one has the innermost text. -/
def nested (innermost : Text) : List InclusionLine → Text
  | [] => innermost
  | line :: _ => line.written

/-- The indentations of several inclusions in a row. -/
def indents (levels : List InclusionLine) : Text :=
  levels.flatMap indent

/-- The texts that are parsed when several inclusions in a row are rendered behind more blanks. -/
def passed (innermost outer : Text) : List InclusionLine → List Text
  | [] => [innermost.indentedBut Text.Line.isBare outer]
  | line :: inner => (outer ++ line.written) :: passed innermost (outer ++ line.indent) inner

/-- A value has the text of each inclusion under its name. -/
def AreHeld (store : Store) (holder : Value) (innermost : Text) : List InclusionLine → Prop
  | [] => True
  | line :: inner =>
    holder.holding? store line.name = some (.stored (.text (nested innermost inner))) ∧
      AreHeld store holder innermost inner

end InclusionLine

namespace Cache

/-- What a cache has for a text, if anything, is what the text is parsed into. -/
def IsTrueTo (cache : Cache) (delimiters : Delimiters) (text : Text) : Prop :=
  ∀ nodes, cache.find? (.of delimiters text) = some nodes →
    (Template.parse delimiters text).2 = .ok nodes

section IsTrueTo

variable {cache : Cache} {delimiters : Delimiters} {text : Text}

/-- A new cache is true to every text. -/
theorem IsTrueTo.empty (capacity : Option Nat) :
    (Cache.empty capacity).IsTrueTo delimiters text := by
  intro nodes found
  rw [(Contains.empty capacity).find?_eq_none] at found
  cases found

/-- A cache yields for a text to which it is true what parsing without a cache yields. -/
theorem IsTrueTo.result_parse (isTrue : cache.IsTrueTo delimiters text) :
    (cache.parse delimiters text).result = (Template.parse delimiters text).2 := by
  cases found : cache.find? (.of delimiters text) with
  | none => exact parse_of_absent found
  | some nodes =>
    rw [parse_of_present found]
    exact (isTrue nodes found).symm

/-- A cache stays true to a text when one without sections is parsed. -/
theorem IsTrueTo.parse (isTrue : cache.IsTrueTo delimiters text) {parsed : Delimiters}
    {template : Text} (noEvents : (Template.parse parsed template).1 = []) :
    (cache.parse parsed template).cache.IsTrueTo delimiters text := by
  have contains : cache.Contains fun key nodes => key = .of delimiters text →
      (Template.parse key.delimiters key.source).2 = .ok nodes := by
    rintro key nodes member rfl
    refine isTrue nodes ?_
    rw [Cache.find?_eq, Entries.lookup_eq_some_iff cache.nodup_keys]
    exact member
  refine fun nodes found => (contains.parse ?_ ?_).find? found rfl
  · rw [noEvents]
    exact fun _ _ _ isBody => absurd isBody List.not_mem_nil
  · exact fun nodes parsed _ => parsed

end IsTrueTo

end Cache

namespace Render

variable {holder : Value} {innermost : Text}

/-- What a mapping holds is the text of an inclusion. -/
theorem partialText_held {deeper : Deeper} {name text : Text} {session : Session}
    (holds : holder.holding? session.store name = some (.stored (.text text))) :
    partialText deeper name (.held holder) session = (.ok text, session) := by
  have found : Context.find? session.store name [holder] =
      some (0, holder, .stored (.text text)) := by
    rw [Context.find?, holds]
  have looked : lookup deeper name [holder] session = (.ok (some holder, .text text), session) :=
    lookup_of_find? found
  change (lookup deeper name [holder] >>= fun looked => displayed looked.2) session = _
  rw [bind_of_ok looked]
  rfl

/-- Where the cache is true to a text without sections, the text is parsed into its own nodes. The
cache stays true to the others. -/
theorem parse_of_isTrueTo {session : Session} {text : Text}
    (isTrue : session.store.cache.IsTrueTo .standard text) {nodes : List Node}
    (parsed : Template.parse .standard text = ([], .ok nodes)) {others : List Text}
    (othersTrue : ∀ other ∈ others, session.store.cache.IsTrueTo .standard other) :
    ∃ after, parse .standard text session = (.ok nodes, after) ∧
      after.store.mappings = session.store.mappings ∧
      ∀ other ∈ others, after.store.cache.IsTrueTo .standard other := by
  have result : (session.store.cache.parse .standard text).result = .ok nodes := by
    rw [isTrue.result_parse, parsed]
  exact ⟨_, parse_of_result result, rfl, fun other isOther =>
    (othersTrue other isOther).parse (congrArg Prod.fst parsed)⟩

/-- The literal nodes of a text are rendered as the text. -/
theorem generate_literals (depth : Nat) (partials : Partials) (text : Text) (session : Session) :
    generate (depth + 1) partials (Node.literals text) session = (.ok text, session) := by
  unfold Node.literals
  split
  · rename_i nothing
    rw [nothing]
    rfl
  · rfl

/-- An inclusion that stands between two texts is rendered between them. -/
theorem generate_between {depth : Nat} {partials : Partials} {name indent text : Text}
    {session after : Session}
    (ran : inclusion (generate depth) partials name indent session = (.ok text, after))
    (front back : Text) :
    generate (depth + 1) partials [.literal front, .inclusion name indent, .literal back] session =
      (.ok (front ++ (text ++ back)), after) := by
  have first : node (generate depth) partials (.literal front) session = (.ok front, session) := rfl
  have second : joinEach (node (generate depth) partials) [.inclusion name indent, .literal back]
      session = (.ok (text ++ back), after) := by
    have included : node (generate depth) partials (.inclusion name indent) session =
        (.ok text, after) := ran
    rw [joinEach_cons, bind_of_ok included]
    rfl
  change joinEach (node (generate depth) partials) _ session = _
  rw [joinEach_cons, bind_of_ok first, bind_of_ok second]
  rfl

/-- A line with an inclusion is rendered as the text that is included, indented as the line is. -/
theorem expand_written (isMapping : holder.kind = .mapping) {line : InclusionLine} {text : Text}
    {session : Session}
    (held : holder.holding? session.store line.name = some (.stored (.text text)))
    (isTrue : session.store.cache.IsTrueTo .standard line.written) {others : List Text}
    (othersTrue : ∀ other ∈ others, session.store.cache.IsTrueTo .standard other) (depth : Nat) :
    ∃ after,
      expand (generate (depth + 2)) (.held holder) .standard line.written session =
        expand (generate (depth + 1)) (.held holder) .standard
          (text.indentedBut Text.Line.isBare line.indent) after ∧
      after.store.mappings = session.store.mappings ∧
      ∀ other ∈ others, after.store.cache.IsTrueTo .standard other := by
  obtain ⟨between, parsed, same, trueBetween⟩ :=
    parse_of_isTrueTo isTrue (Template.parse_inclusionLine line) othersTrue
  have heldBetween : holder.holding? between.store line.name = some (.stored (.text text)) := by
    rw [Value.holding?_of_ne_cache same (Value.ne_cache_of_mapping isMapping), held]
  have rendered : generate (depth + 2) (.held holder) [.inclusion line.name line.indent] between =
      inclusion (generate (depth + 1)) (.held holder) line.name line.indent between := rfl
  refine ⟨{ between with log := .partialResolved line.name text.length :: between.log }, ?_, same,
    trueBetween⟩
  rw [expand, bind_of_ok parsed, rendered, inclusion_of_partialText (partialText_held heldBetween)]

/-- Several inclusions in a row, behind more blanks, are rendered as what the last one includes,
indented by all blanks together. -/
theorem expand_indented {store : Store} (isMapping : holder.kind = .mapping)
    (noTag : Text.holds (.of "\x7b\x7b") innermost = false) {levels : List InclusionLine}
    (held : InclusionLine.AreHeld store holder innermost levels) {depth : Nat}
    (enough : levels.length < depth) {outer : Text}
    (isBlank : ∀ point ∈ outer, Text.isBlank point = true) {session : Session}
    (same : session.store.mappings = store.mappings)
    (areTrue : ∀ text ∈ InclusionLine.passed innermost outer levels,
      session.store.cache.IsTrueTo .standard text) :
    (expand (generate depth) (.held holder) .standard
        ((InclusionLine.nested innermost levels).indentedBut Text.Line.isBare outer) session).1 =
      .ok (innermost.indentedBut Text.Line.isBare (outer ++ InclusionLine.indents levels)) := by
  obtain ⟨further, rfl⟩ := Nat.exists_eq_add_one_of_ne_zero (Nat.ne_zero_of_lt enough)
  induction levels generalizing further outer session with
  | nil =>
    have stillNoTag : Text.holds Delimiters.standard.opening
        (innermost.indentedBut Text.Line.isBare outer) = false := by
      rw [← indentLines_eq, ← noTag]
      exact holds_opening_indentLines isBlank true innermost
    obtain ⟨hereTrue, othersTrue⟩ := List.forall_mem_cons.mp areTrue
    obtain ⟨after, parsed, -⟩ := parse_of_isTrueTo hereTrue
      (Template.parse_of_not_holds (by decide) stillNoTag) othersTrue
    rw [InclusionLine.nested, expand, bind_of_ok parsed, generate_literals]
    simp [InclusionLine.indents]
  | cons line inner inductionHypothesis =>
    obtain ⟨here, others⟩ := held
    obtain ⟨hereTrue, othersTrue⟩ := List.forall_mem_cons.mp areTrue
    have isLine : (line.behind outer isBlank).written = outer ++ line.written := by
      simp [InclusionLine.behind, InclusionLine.written]
    have hereHeld : holder.holding? session.store (line.behind outer isBlank).name =
        some (.stored (.text (InclusionLine.nested innermost inner))) := by
      rw [Value.holding?_of_ne_cache same (Value.ne_cache_of_mapping isMapping)]
      exact here
    have enoughInside : inner.length < further := Nat.lt_of_succ_lt_succ enough
    obtain ⟨inside, rfl⟩ := Nat.exists_eq_add_one_of_ne_zero (Nat.ne_zero_of_lt enoughInside)
    obtain ⟨after, rendered, sameAfter, trueAfter⟩ :=
      expand_written isMapping hereHeld (isLine ▸ hereTrue) othersTrue inside
    rw [InclusionLine.nested, line.indentedBut_written isBlank, rendered]
    refine (inductionHypothesis others (line.behind outer isBlank).isBlank
      (sameAfter.trans same) trueAfter inside enoughInside).trans ?_
    simp [InclusionLine.indents, InclusionLine.behind]

/-- Indentation accumulates along nested inclusions. If each of several lines with an inclusion is
the text of the one before it, and the cache is true to the texts that come up, then the first one
is rendered as the text of the last one, with the blanks of all of them at the start of every line
that is not empty. -/
theorem nested_indented (isMapping : holder.kind = .mapping)
    (noTag : Text.holds (.of "\x7b\x7b") innermost = false) (noReturn : .char '\r' ∉ innermost)
    {levels : List InclusionLine} {session : Session}
    (held : InclusionLine.AreHeld session.store holder innermost levels)
    (areTrue : ∀ text ∈ InclusionLine.passed innermost [] levels,
      session.store.cache.IsTrueTo .standard text) :
    (∀ depth, levels.length < depth →
      (expand (generate depth) (.ofValue holder) .standard
          (InclusionLine.nested innermost levels) session).1 =
        .ok (innermost.indentedBut Text.Line.isEmpty (InclusionLine.indents levels))) ∧
      (levels.length < depthLimit → ∀ data,
        (template (.ofValue holder) .standard
            (InclusionLine.nested innermost levels) data session).1 =
          .ok (innermost.indentedBut Text.Line.isEmpty (InclusionLine.indents levels))) := by
  have isHeld : Partials.ofValue holder = .held holder := by
    unfold Partials.ofValue
    split
    · cases isMapping
    · simp [isMapping]
  have noBreak : ⟨[], .of "\r\n"⟩ ∉ innermost.lines := by
    intro inside
    refine noReturn ?_
    rw [← innermost.flatMap_written_lines]
    exact List.mem_flatMap.mpr ⟨_, inside, by decide⟩
  have rendered (depth : Nat) (enough : levels.length < depth) (frames : List Value) :
      (expand (generate depth) (.held holder) .standard (InclusionLine.nested innermost levels)
          { session with frames }).1 =
        .ok (innermost.indentedBut Text.Line.isEmpty (InclusionLine.indents levels)) := by
    have indented := @expand_indented _ _ _ isMapping noTag _ held depth enough [] (by simp)
      { session with frames } rfl areTrue
    rwa [Text.indentedBut_nil, List.nil_append, Text.indentedBut_isBare_eq noBreak] at indented
  rw [isHeld]
  exact ⟨fun depth enough => rendered depth enough session.frames,
    fun enough data => rendered depthLimit enough _⟩

/-- Two inclusions, one with a space and one with a tab in front of it. -/
def twoLevels : List InclusionLine :=
  [⟨.of " ", .of "p", by decide, by decide, by decide⟩,
    ⟨.of "\t", .of "q", by decide, by decide, by decide⟩]

/-- A mapping with the second inclusion, and with three lines for its text. -/
def twoLevelHolder : Value :=
  .frozen [(.text (.of "p"), .text (.of "\t\x7b\x7b>q\x7d\x7d\n")),
    (.text (.of "q"), .text (.of "x\n\ny"))]

/-- The three lines are indented by a space and a tab, but for the empty one. -/
theorem nested_indented_twoLevels :
    (template (.ofValue twoLevelHolder) .standard (.of " \x7b\x7b>p\x7d\x7d\n") .null
      newSession).1 = .ok (.of " \tx\n\n \ty") := by
  have held : InclusionLine.AreHeld newSession.store twoLevelHolder (.of "x\n\ny") twoLevels :=
    ⟨rfl, rfl, trivial⟩
  have indented := nested_indented rfl (by decide) (by decide) held fun _ _ => .empty none
  exact indented.2 (by decide) .null

/-! ## A body that hides an inclusion -/

/-- A line with an inclusion in a section. No line begins where the body begins. -/
def wedgedLine : Text :=
  .of "x\x7b\x7b#s\x7d\x7d  \x7b\x7b>p\x7d\x7d\n\x7b\x7b/s\x7d\x7d"

/-- The line by itself. -/
def twoSpaceLine : InclusionLine :=
  ⟨.of "  ", .of "p", by decide, by decide, by decide⟩

/-- What the line is parsed into in the section. -/
def wedgedNodes : List Node :=
  [.literal (.of "  "), .inclusion (.of "p") [], .literal (.of "\n")]

/-- A mapping with two lines to include. -/
def twoLineHolder : Value :=
  .frozen [(.text (.of "p"), .text (.of "a\nb"))]

/-- A session that goes through the cache in which the section was parsed. -/
def wedgedSession : Session :=
  Cache.bareSession (.after none [.parse .standard wedgedLine])

/-- The section and its body are parsed. -/
theorem parse_wedgedLine : Template.parse .standard wedgedLine =
    ([.bodyParsed .standard twoSpaceLine.written wedgedNodes],
      .ok [.literal (.of "x"), .block (.of "s") false twoSpaceLine.written .standard
        (some wedgedNodes)]) := by
  cbv

/-- In the session the line is parsed into the nodes of the body. -/
theorem result_parse_twoSpaceLine :
    (wedgedSession.store.cache.parse .standard twoSpaceLine.written).result = .ok wedgedNodes :=
  Cache.parse_of_present (Cache.find?_parse_body parse_wedgedLine (by decide))

/-- In the cache there is nothing for the two lines, nor after the line was parsed. -/
theorem isTrueTo_twoLines :
    (wedgedSession.store.cache.parse .standard twoSpaceLine.written).cache.IsTrueTo .standard
      (.of "a\nb") := by
  have absent : Cache.Contains (fun key _ => key ≠ .of .standard (.of "a\nb"))
      wedgedSession.store.cache := by
    refine Cache.Contains.parse (.empty none) ?_ fun _ _ isKey => ?_
    · rw [parse_wedgedLine]
      rintro _ _ _ isBody isKey
      cases List.mem_singleton.mp isBody
      exact absurd (congrArg Cache.Key.source isKey) (by decide)
    · exact absurd (congrArg Cache.Key.source isKey) (by decide)
  refine Cache.IsTrueTo.parse (fun nodes found => ?_)
    (congrArg Prod.fst (Template.parse_inclusionLine twoSpaceLine))
  rw [absent.find?_eq_none] at found
  cases found

/-- Behind a section that has the line for its body, it is rendered as what stands in the body. The
second of the two lines is not indented then. -/
theorem line_hidden_by_body :
    twoLineHolder.kind = .mapping ∧ Text.holds (.of "\x7b\x7b") (.of "a\nb") = false ∧
      .char '\r' ∉ Text.of "a\nb" ∧
      InclusionLine.AreHeld wedgedSession.store twoLineHolder (.of "a\nb") [twoSpaceLine] ∧
      (template (.ofValue twoLineHolder) .standard
        (InclusionLine.nested (.of "a\nb") [twoSpaceLine]) .null wedgedSession).1 =
          .ok (.of "  a\nb\n") ∧
      (Text.of "a\nb").indentedBut Text.Line.isEmpty (InclusionLine.indents [twoSpaceLine]) =
        .of "  a\n  b" ∧
      Text.of "  a\nb\n" ≠ .of "  a\n  b" := by
  refine ⟨rfl, by decide, by decide, ⟨rfl, trivial⟩, ?_, by decide, by decide⟩
  let session : Session := { wedgedSession with frames := [] }
  let next : Session := (parse .standard twoSpaceLine.written session).2
  let noted : Session := { next with log := .partialResolved (.of "p") 3 :: next.log }
  have parsedLine : parse .standard twoSpaceLine.written session = (.ok wedgedNodes, next) :=
    parse_of_result result_parse_twoSpaceLine
  have parsedText : Template.parse .standard (.of "a\nb") =
      ([], .ok [.literal (.of "a\nb")]) :=
    Template.parse_of_not_holds (by decide) (by decide)
  obtain ⟨after, parsed, -⟩ :=
    @parse_of_isTrueTo noted _ isTrueTo_twoLines _ parsedText [] (by simp)
  have included : inclusion (generate 999999) (.held twoLineHolder) (.of "p") [] next =
      (.ok (.of "a\nb"), after) := by
    rw [inclusion_of_partialText (partialText_held rfl), Text.indentedBut_nil, expand]
    exact bind_of_ok parsed
  change ((parse .standard twoSpaceLine.written >>=
    generate depthLimit (.held twoLineHolder)) session).1 = _
  rw [bind_of_ok parsedLine]
  exact congrArg Prod.fst (generate_between included (.of "  ") (.of "\n"))

end Render

end Stencil
