import ApiContract.Json.Writer
import ApiContract.Yaml.Writer

/-!
# Texts of documents

A document is written in one of two formats.
-/

namespace ApiContract

/-- The formats of documents. -/
inductive Format where
  | json | yaml
  deriving DecidableEq

namespace Format

/-- The name of a format. -/
def name : Format → String
  | .json => "json"
  | .yaml => "yaml"

/-- The format of a name. -/
def ofName? (name : String) : Option Format :=
  if name == "json" then some .json else if name == "yaml" then some .yaml else none

/-- The format of a name; all names but one mean JSON. -/
def ofName (name : String) : Format :=
  (ofName? name).getD .json

theorem ofName?_name (f : Format) : ofName? f.name = some f := by
  cases f <;> decide

/-- The text of a document, with a line end after it. -/
def render (f : Format) (document : Value) : Except Failure Value :=
  match f with
  | .json =>
    (Json.written Json.documentStyle document).map fun codes =>
      Value.ofCodes (codes ++ ['\n'.toNat])
  | .yaml => (Yaml.text document).map .str

end Format

end ApiContract
