import ApiContract.Checked

/-!
# Document settings

The title, description and version of a document: given as options, or taken
from the environment.
-/

namespace ApiContract

/-- What a document says about itself. -/
structure DocumentInfo where
  title : String
  description : String
  version : String
  deriving DecidableEq

namespace DocumentInfo

/-- The settings of a document about which nothing is said. -/
def standard : DocumentInfo :=
  ⟨"API", "", "1.0"⟩

/-- Read the settings from options; options of other names are passed over. -/
def ofOptions (options : Options) : Checked DocumentInfo :=
  DocumentInfo.mk
    <$> options.optional "title" standard.title Value.checkText
    <*> options.optional "description" standard.description Value.checkText
    <*> options.optional "version" standard.version Value.checkText

/-- The settings in an environment. -/
def ofEnvironment (env : Entries String String) : DocumentInfo :=
  ⟨(env.get? "OPENAPI_TITLE").getD standard.title,
    (env.get? "OPENAPI_DESCRIPTION").getD standard.description,
    (env.get? "OPENAPI_VERSION").getD standard.version⟩

/-- The settings as they stand in a document. -/
def toMapping (info : DocumentInfo) : Entries String Value :=
  [("title", .str info.title), ("description", .str info.description),
    ("version", .str info.version)]

end DocumentInfo

end ApiContract
