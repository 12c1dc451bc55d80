import Stencil.Cache.Basic
import Stencil.LogEvent
import Stencil.Template.Parse

/-!
# Parsing through a cache

A template that is in the cache is not parsed again. Otherwise it is parsed, and what happened
meanwhile is carried over to the cache and to the log in its order: every completed section body is
stored under the delimiters that it began with, and the template itself is stored last, unless one
of its own bodies took its place before. A template that cannot be parsed leaves the bodies that
were completed before the error.
-/

namespace Stencil.Cache

/-- What parsing through a cache yields: the result, the cache after it, and log lines. -/
structure Parsed where
  result : Except ParseError (List Node)
  cache : Cache
  log : List LogEvent

/-- The log lines for entries that were driven out. -/
def evictions (keys : List Key) : List LogEvent :=
  keys.map fun key => .evicted key.delimiters

/-- Carries one event of a parse over to the cache and the log. -/
def record (cache : Cache) : Template.Event → Cache × List LogEvent
  | .delimitersChanged delimiters => (cache, [.delimitersChanged delimiters])
  | .bodyParsed delimiters source nodes =>
    let (evicted, cache) := cache.put (.of delimiters source) nodes
    (cache, evictions evicted)

/-- Carries the events of a parse over to the cache and the log, in their order. -/
def recordAll (cache : Cache) : List Template.Event → Cache × List LogEvent
  | [] => (cache, [])
  | event :: events =>
    let (cache, log) := cache.record event
    let (cache, more) := cache.recordAll events
    (cache, log ++ more)

/-- Parses a template unless the cache has it. -/
def parse (cache : Cache) (delimiters : Delimiters) (template : Text) : Parsed :=
  match cache.get (.of delimiters template) with
  | (some nodes, cache) => ⟨.ok nodes, cache, []⟩
  | (none, cache) =>
    let (events, result) := Template.parse delimiters template
    let (cache, log) := cache.recordAll events
    let log := .parsing template.length delimiters :: log
    match result with
    | .error error => ⟨.error error, cache, log⟩
    | .ok nodes =>
      let (stored, evicted, cache) := cache.putIfAbsent (.of delimiters template) nodes
      ⟨.ok stored, cache, log ++ evictions evicted⟩

end Stencil.Cache
