import Stencil.Value.Store

/-!
# The context of a name

A name is looked up in a stack of frames, innermost first. A frame holds a name if it is a mapping
with that key, or an object with a member of that name, where names that begin with an underscore
are private. All other frames are passed over, so the items of a sequence never hide a name by what
they happen to offer. Presence decides, whatever the value.

Looking up changes nothing: a computed member is found here and computed by who asked for it.
-/

namespace Stencil

/-- The names under which a date offers functions. -/
def Date.functionNames : List Text :=
  ["ctime", "fromisocalendar", "fromisoformat", "fromordinal", "fromtimestamp", "isocalendar",
    "isoformat", "isoweekday", "replace", "strftime", "timetuple", "today", "toordinal",
    "weekday"].map Text.of

/-- What a date offers under a name. -/
def Date.member? (date : Date) (name : Text) : Option Member :=
  if name = Text.of "year" then some (.stored (.int date.year))
  else if name = Text.of "month" then some (.stored (.int date.month))
  else if name = Text.of "day" then some (.stored (.int date.day))
  else if name = Text.of "min" then some (.stored (.date least))
  else if name = Text.of "max" then some (.stored (.date greatest))
  else if name = Text.of "resolution" then some (.stored (.duration .day))
  else if functionNames.contains name then some (.stored (.builtIn .refusing))
  else none

/-- What a duration offers under a name. -/
def Duration.member? (duration : Duration) (name : Text) : Option Member :=
  if name = Text.of "days" then some (.stored (.int duration.days))
  else if name = Text.of "seconds" then some (.stored (.int duration.seconds))
  else if name = Text.of "microseconds" then some (.stored (.int duration.microseconds))
  else if name = Text.of "min" then some (.stored (.duration least))
  else if name = Text.of "max" then some (.stored (.duration greatest))
  else if name = Text.of "resolution" then some (.stored (.duration microsecond))
  else if name = Text.of "total_seconds" then some (.stored (.builtIn .refusing))
  else none

/-- The functions of a set that change it when a template calls them. -/
def SetFunction.names : List (Text × SetFunction) :=
  [("add", .add), ("discard", .discard), ("remove", .remove), ("update", .addAll),
    ("difference_update", .removeAll)].map fun (name, function) => (Text.of name, function)

/-- The functions of a set that take only sets, or nothing at all. -/
def Value.setQuestions : List Text :=
  ["clear", "copy", "difference", "intersection", "intersection_update", "isdisjoint", "issubset",
    "issuperset", "pop", "symmetric_difference", "symmetric_difference_update", "union"].map Text.of

/-- What a set offers under a name. -/
def Value.setMember? (address : Nat) (name : Text) : Option Member :=
  match SetFunction.names.lookup name with
  | some function => some (.stored (.builtIn (.ofSet function address)))
  | none => if setQuestions.contains name then some (.stored (.builtIn .refusing)) else none

/-- What the cache of parsed templates offers under a name. -/
def Cache.member? (cache : Cache) (name : Text) : Option Member :=
  if name = Text.of "hits" then some (.stored (.int cache.hits))
  else if name = Text.of "misses" then some (.stored (.int cache.misses))
  else if name = Text.of "max_size" then
    some (.stored (match cache.capacity with | none => .null | some size => .int size))
  else if name = Text.of "clear" then some (.computed .clearsCache)
  else if ["get", "put", "setdefault"].any (fun method => name = Text.of method) then
    some (.computed .needsArguments)
  else none

/-- What every class offers unless it says otherwise: a function for the order of its bases. -/
def Value.classMember? (name : Text) : Option Member :=
  if name = Text.of "mro" then some (.stored (.builtIn .refusing)) else none

/-- What an object offers under a name, private or not. -/
def Value.member? (store : Store) (name : Text) : Value → Option Member
  | .object members _ _ role =>
    (members.lookup name).or (if role = .maker then classMember? name else none)
  | .date day => day.member? name
  | .duration length => length.member? name
  | .set address => setMember? address name
  | .cache => store.cache.member? name
  | _ => none

/-- Whether a name is private. -/
def isPrivate (name : Text) : Bool :=
  name.head? == some (.char '_')

/-- What a frame holds under a name. -/
def Value.holding? (store : Store) (name : Text) : Value → Option Member
  | .mapping address => ((store.entries address).lookup (.text name)).map .stored
  | .frozen entries => (entries.lookup (.text name)).map .stored
  | value =>
    if value.kind = .object ∧ ¬isPrivate name then value.member? store name else none

/-- The innermost frame that holds a name, its distance from the innermost frame, and what it holds
there. -/
def Context.find? (store : Store) (name : Text) : List Value → Option (Nat × Value × Member)
  | [] => none
  | frame :: outer =>
    match frame.holding? store name with
    | some member => some (0, frame, member)
    | none => (find? store name outer).map fun (distance, found) => (distance + 1, found)

end Stencil
