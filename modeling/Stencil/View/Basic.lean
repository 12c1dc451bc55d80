import Stencil.Value.Basic

/-!
# Views

A view is an object that finds its template and its partials among the files. Its class can bring
members along, an instance is given fields, and both can change how files are found. A member of an
instance hides one of its class, and a method of the class hides a value of the class.

`View.of` puts a view together; whether its fields have names that they can have is asked before
(`View.make`).
-/

namespace Stencil.View

/-- A view that is to be made. -/
structure Blueprint where
  /-- The name of the view's class, with the module that it is defined in. -/
  className : Text
  /-- What the class stores. -/
  attributes : List (Text × Value)
  /-- What the class computes. -/
  methods : List (Text × Method)
  /-- What the instance stores. -/
  fields : List (Text × Value)
  /-- Whether the view keeps parsed templates to itself. -/
  ownCache : Bool

/-- What every view offers unless its class or its instance says otherwise. -/
def commonMembers (className : Text) : List (Text × Member) :=
  [(Text.of "template_path", .stored (.text (.of "."))),
    (Text.of "template_extension", .stored (.text (Text.of "mustache"))),
    (Text.of "template_namespace", .stored (.text [])),
    (Text.of "template_file", .stored .null),
    (Text.of "template_file_name", .computed (.ofView (.fileName className))),
    (Text.of "template", .computed (.ofView .template)),
    (Text.of "partial", .computed (.ofView .partialText)),
    (Text.of "render", .computed (.ofView .render))]

/-- What the class of a view brings along. -/
def classMembers (blueprint : Blueprint) : List (Text × Member) :=
  blueprint.methods.map (fun (name, method) => (name, .computed method)) ++
    blueprint.attributes.map fun (name, value) => (name, .stored value)

/-- The view of a blueprint. Whatever its class and its fields say, its cache is its own or none. -/
def of (blueprint : Blueprint) : Value :=
  .object
    ((Text.of "cache", .stored (if blueprint.ownCache then .cache else .null)) ::
      blueprint.fields.map (fun (name, value) => (name, .stored value)) ++
      classMembers blueprint ++ commonMembers blueprint.className)
    (Text.of "<view>") true
    (if (classMembers blueprint).any (fun member => member.1 == Text.of "__call__") then .callable
      else .thing)

end Stencil.View
