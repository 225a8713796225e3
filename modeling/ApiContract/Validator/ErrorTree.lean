import ApiContract.Entries
import ApiContract.Value.Basic

/-!
# Error trees

The messages about given data are nested by the path to the place they are
about.  A path that leads further than another takes its place: messages at a
place that is passed through are dropped, whatever the order in which they come.
-/

namespace ApiContract

/-- Messages about one place, or error trees by the next step. -/
inductive ErrorTree where
  | messages (texts : List String)
  | branch (children : List (String × ErrorTree))

namespace ErrorTree

/-- The children of a branch; messages have none. -/
def children : Option ErrorTree → Entries String ErrorTree
  | some (.branch children) => children
  | _ => []

/-- What stands at the end of a path after one more message there. -/
def addHere (message : String) : Option ErrorTree → ErrorTree
  | none => .messages [message]
  | some (.messages texts) => .messages (texts ++ [message])
  | some (.branch children) => .branch children

/-- Enter a message at the end of a path. -/
def enter (message : String) : List String → Entries String ErrorTree → Entries String ErrorTree
  | [], trees => trees
  | [last], trees => trees.put last (addHere message (trees.get? last))
  | step :: path, trees =>
    trees.put step (.branch (enter message path (children (trees.get? step))))

/-- The step that stands for the whole of the data. -/
def rootStep : String :=
  "__root__"

/-- A path with at least one step. -/
def rooted (path : List String) : List String :=
  if path.isEmpty then [rootStep] else path

/-- The error trees that messages with their paths make, entered one by one. -/
def collect (errors : List (List String × String)) : Entries String ErrorTree :=
  errors.foldl (fun trees e => enter e.2 (rooted e.1) trees) []

/-- A step on the path to what is wrong: the name of a field, or the number of an item. -/
inductive Step where
  | name (text : String)
  | index (n : Int)
  deriving DecidableEq

/-- The text of a step. -/
def Step.text : Step → String
  | .name text => text
  | .index n => toString n

/-- A message with the texts of the steps on its path. -/
def lineOf (error : List Step × String) : List String × String :=
  (error.1.map Step.text, error.2)

/-- The error trees that messages make whose paths are given step by step. -/
def collectSteps (errors : List (List Step × String)) : Entries String ErrorTree :=
  collect (errors.map lineOf)

mutual

/-- An error tree as a value. -/
def toValue : ErrorTree → Value
  | .messages texts => .list (texts.map .str)
  | .branch children => .dict (toEntries children)

/-- Error trees as the entries of a dictionary. -/
def toEntries : List (String × ErrorTree) → List (Value × Value)
  | [] => []
  | (step, tree) :: rest => (.str step, toValue tree) :: toEntries rest

end

end ErrorTree

end ApiContract
