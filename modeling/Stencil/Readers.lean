import Stencil.Json.Reader
import Stencil.Yaml.Document

/-!
# Readers of data

Data are written in two formats, and each of them has its reader. What is done with the data does
not depend on how they were read: wherever data come from a text, the readers can be any pair of
them. All that is known of a reader is that no two keys of a mapping are equal (`Readers`).
-/

namespace Stencil

/-- How data are read from texts of the two formats. -/
structure Readers where
  yaml : Text → Except Yaml.Error Datum
  json : Text → Except Json.Error Datum
  yaml_areDistinct : ∀ {text : Text} {entries : Record},
    yaml text = .ok (.mapping entries) → Entries.AreDistinct entries
  json_areDistinct : ∀ {text : Text} {entries : Record},
    json text = .ok (.mapping entries) → Entries.AreDistinct entries

/-- The readers that follow the formats. -/
def Readers.standard : Readers where
  yaml := Yaml.read
  json := Json.read
  yaml_areDistinct := Yaml.areDistinct_of_read
  json_areDistinct := Json.areDistinct_of_read

end Stencil
