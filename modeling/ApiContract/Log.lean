/-!
# Log lines

What the library reports about its own work while it goes on.
-/

namespace ApiContract

/-- The part of the library that a log line comes from. -/
inductive LogSource where
  | registry | document | requestValidator | derivation
  deriving DecidableEq

/-- The name under which a part of the library logs. -/
def LogSource.name : LogSource → String
  | .registry => "openapi_declare.registry"
  | .document => "openapi_declare.compiler.openapi"
  | .requestValidator => "openapi_declare.compiler.request"
  | .derivation => "openapi_declare.introspect"

/-- A log line: a warning, or a remark of use while debugging. -/
structure LogLine where
  warning : Bool
  source : LogSource
  text : String
  deriving DecidableEq

/-- The line as it is written. -/
def LogLine.line (l : LogLine) : String :=
  (if l.warning then "WARNING " else "DEBUG ") ++ l.source.name ++ ": " ++ l.text

end ApiContract
