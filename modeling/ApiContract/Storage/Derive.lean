import ApiContract.Registry.Basic
import ApiContract.Storage.Column

/-!
# Deriving components

An object component is derived from the attributes that a resource exposes: an
attribute that is an association becomes an array of the associated resource,
one that has a column becomes what the column holds, and one that has neither is
skipped.  Properties that are declared beforehand take precedence.  A column of
an unknown type stops the derivation; what was derived until then stays.
-/

namespace ApiContract

/-- What is known about the storage of a resource. -/
structure Storage where
  columns : Entries String Column
  associations : Entries String Association

namespace Storage

/-- The facets of the property that an attribute becomes, if it becomes one.
`place` is where the property is declared. -/
def facets? (s : Storage) (place attr : String) : Except Failure (Option Facets) :=
  match s.associations.get? attr with
  | some a => .ok (some a.facets)
  | none =>
    match s.columns.get? attr with
    | none => .ok none
    | some c =>
      match c.facets with
      | .ok f => .ok (some f)
      | .error (.unknownColumnType sqlType _) => .error (.unknownColumnType sqlType (some place))
      | .error f => .error f

/-- The remark about an attribute that becomes no property. -/
def skipped (place : String) : LogLine :=
  ⟨false, .derivation, place ++ ": no column, skipped"⟩

/-- What deriving a property from an attribute comes to. -/
inductive Derived where
  /-- The attribute is declared already. -/
  | declared
  /-- The attribute is neither an association nor has it a column. -/
  | nothing (place : String)
  | property (name : String) (f : Facets)

/-- Derive a property from an attribute.  Only texts can name a property, an
association or a column. -/
def deriveProperty (s : Storage) (owner : String) (node : Node) (given : Value) :
    Except Failure Derived :=
  if !given.isKey then .error (.misuse .notKey)
  else if given.text?.any node.properties.has then .ok .declared
  else
    given.shown.bind fun name =>
      let place := owner ++ "." ++ name
      match given.text? with
      | none => .ok (.nothing place)
      | some attr =>
        (s.facets? place attr).map fun facets =>
          match facets with
          | none => .nothing place
          | some f => .property name f

/-- Derive the properties of a node from attributes, first to last, up to the
first that fails. -/
def deriveProperties (s : Storage) (owner : String) (node : Node) :
    List Value → Node × Option Failure × List LogLine
  | [] => (node, none, [])
  | given :: rest =>
    match s.deriveProperty owner node given with
    | .error f => (node, some f, [])
    | .ok .declared => deriveProperties s owner node rest
    | .ok (.nothing place) =>
      let (node, failure, log) := deriveProperties s owner node rest
      (node, failure, skipped place :: log)
    | .ok (.property name f) =>
      deriveProperties s owner (node.putProperty name ⟨true, .mk f []⟩) rest

end Storage

end ApiContract
