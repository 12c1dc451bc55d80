import Stencil.Delimiters

/-!
# Log lines

Work that is invisible in the output leaves log lines. An event carries what happened; its level,
its source and its wording follow from the event.
-/

namespace Stencil

/-- Something worth a log line. -/
inductive LogEvent where
  /-- A template of this many characters is parsed, since it is not in the cache. -/
  | parsing (characters : Nat) (delimiters : Delimiters)
  /-- A tag set these delimiters. -/
  | delimitersChanged (delimiters : Delimiters)
  /-- A parsed template left the cache to make room. -/
  | evicted (delimiters : Delimiters)
  /-- An inclusion was resolved to a text of this many characters. -/
  | partialResolved (name : Text) (characters : Nat)
  /-- There is no template file of this name. -/
  | fileMissing (path : Text)
  /-- A data file was read. -/
  | dataLoaded (path : Text)
  /-- A document brought this many keys of data along. -/
  | frontMatterUsed (keys : Nat)
  deriving DecidableEq, Repr

namespace LogEvent

/-- How much a log line matters. -/
inductive Severity where
  | debug
  | info
  deriving DecidableEq, Repr

/-- Progress of the command is of interest to its user; everything else serves debugging. -/
def severity : LogEvent → Severity
  | .dataLoaded _ | .frontMatterUsed _ => .info
  | _ => .debug

/-- The event in words. -/
def text : LogEvent → Text
  | .parsing characters delimiters =>
    Text.of "Parsing " ++ Text.ofNat characters ++ Text.of " characters with delimiters " ++
      delimiters.quote
  | .delimitersChanged delimiters => Text.of "Delimiters changed to " ++ delimiters.quote
  | .evicted delimiters => Text.of "Evicted cached template for delimiters " ++ delimiters.quote
  | .partialResolved name characters =>
    Text.of "Partial " ++ Text.Quoted.quote name ++ Text.of " resolved to " ++
      Text.ofNat characters ++ Text.of " characters"
  | .fileMissing path => Text.of "Template file " ++ path ++ Text.of " not found"
  | .dataLoaded path => Text.of "Loaded data from " ++ path
  | .frontMatterUsed keys => Text.of "Using " ++ Text.ofNat keys ++ Text.of " front-matter keys"

/-- The log line: level, source and words. -/
def line (event : LogEvent) : Text :=
  match event.severity with
  | .debug => Text.of "DEBUG mustache: " ++ event.text
  | .info => Text.of "INFO mustache_render: " ++ event.text

end LogEvent

end Stencil
