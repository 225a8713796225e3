import ApiContract.Proofs.Value.TextKeys

/-!
# Where schemas stand in a document

A document holds schemas for its components and, in each operation, for the
parameters, the request body and the responses.  A schema holds schemas in turn:
of its properties, of its items, and of the members of a union.  The values that
a schema allows are none of these places.

A document in which keys were replaced by their texts holds schemas at the same
places as before.
-/

namespace ApiContract.Value

/-- A schema stands in itself, and in every schema of whose properties, items or
members it is one. -/
inductive Subschema : Value → Value → Prop
  | here (schema : Value) : Subschema schema schema
  | property {schema properties child inner name : Value}
      (held : schema.Holds (.str "properties") properties) (named : properties.Holds name child)
      (inside : Subschema child inner) : Subschema schema inner
  | items {schema child inner : Value} (held : schema.Holds (.str "items") child)
      (inside : Subschema child inner) : Subschema schema inner
  | member {schema child inner : Value} {members : List Value}
      (held : schema.Holds (.str "anyOf") (.list members)) (listed : child ∈ members)
      (inside : Subschema child inner) : Subschema schema inner

/-- An operation of a document, under any path and verb. -/
def HoldsOperation (document operation : Value) : Prop :=
  ∃ paths operations path verb, document.Holds (.str "paths") paths ∧ paths.Holds path operations ∧
    operations.Holds verb operation

/-- The schema of what a request body or a response contains. -/
def HoldsContent (described schema : Value) : Prop :=
  ∃ content media kind, described.Holds (.str "content") content ∧ content.Holds kind media ∧
    media.Holds (.str "schema") schema

/-- The schemas that a document holds for what it describes. -/
inductive RootSchema (document : Value) : Value → Prop
  | component {components schemas schema name : Value}
      (held : document.Holds (.str "components") components)
      (schemasHeld : components.Holds (.str "schemas") schemas) (named : schemas.Holds name schema) :
      RootSchema document schema
  | parameter {operation parameter schema : Value} {parameters : List Value}
      (held : HoldsOperation document operation)
      (parametersHeld : operation.Holds (.str "parameters") (.list parameters))
      (listed : parameter ∈ parameters) (described : parameter.Holds (.str "schema") schema) :
      RootSchema document schema
  | body {operation body schema : Value} (held : HoldsOperation document operation)
      (bodyHeld : operation.Holds (.str "requestBody") body) (content : HoldsContent body schema) :
      RootSchema document schema
  | response {operation responses response schema code : Value}
      (held : HoldsOperation document operation)
      (responsesHeld : operation.Holds (.str "responses") responses)
      (coded : responses.Holds code response) (content : HoldsContent response schema) :
      RootSchema document schema

/-- A schema stands in a document: for something that is described, or in such a
schema. -/
def SchemaIn (document schema : Value) : Prop :=
  ∃ root, RootSchema document root ∧ Subschema root schema

/-! ### Places before and after keys are replaced by texts -/

/-- A schema that stands in a result comes from one that stands in the value. -/
theorem Subschema.origin {v w inner : Value} (converted : v.withTextKeys? = some w)
    (stands : Subschema w inner) : ∃ u, Subschema v u ∧ u.withTextKeys? = some inner := by
  induction stands generalizing v with
  | here => exact ⟨v, .here v, converted⟩
  | property held named _ ih =>
      obtain ⟨properties, heldBefore, propertiesEq⟩ := held.origin converted
      obtain ⟨child, namedBefore, childEq⟩ := named.origin propertiesEq
      obtain ⟨u, inside, uEq⟩ := ih childEq
      exact ⟨u, .property heldBefore namedBefore inside, uEq⟩
  | items held _ ih =>
      obtain ⟨child, heldBefore, childEq⟩ := held.origin converted
      obtain ⟨u, inside, uEq⟩ := ih childEq
      exact ⟨u, .items heldBefore inside, uEq⟩
  | member held listed _ ih =>
      obtain ⟨list, heldBefore, listEq⟩ := held.origin converted
      obtain ⟨members, rfl, membersEq⟩ := eq_list_of_withTextKeys? listEq
      obtain ⟨child, listedBefore, childEq⟩ := mem_itemsWithTextKeys? membersEq listed
      obtain ⟨u, inside, uEq⟩ := ih childEq
      exact ⟨u, .member heldBefore listedBefore inside, uEq⟩

theorem HoldsOperation.origin {v w operation : Value} (converted : v.withTextKeys? = some w)
    (held : HoldsOperation w operation) :
    ∃ u, HoldsOperation v u ∧ u.withTextKeys? = some operation := by
  rcases held with ⟨paths, operations, path, verb, pathsHeld, pathHeld, verbHeld⟩
  obtain ⟨pathsBefore, pathsHeld, pathsEq⟩ := pathsHeld.origin converted
  obtain ⟨operationsBefore, pathHeld, operationsEq⟩ := pathHeld.origin pathsEq
  obtain ⟨u, verbHeld, uEq⟩ := verbHeld.origin operationsEq
  exact ⟨u, ⟨pathsBefore, operationsBefore, path, verb, pathsHeld, pathHeld, verbHeld⟩, uEq⟩

theorem HoldsContent.origin {v w schema : Value} (converted : v.withTextKeys? = some w)
    (held : HoldsContent w schema) :
    ∃ u, HoldsContent v u ∧ u.withTextKeys? = some schema := by
  rcases held with ⟨content, media, kind, contentHeld, kindHeld, schemaHeld⟩
  obtain ⟨contentBefore, contentHeld, contentEq⟩ := contentHeld.origin converted
  obtain ⟨mediaBefore, kindHeld, mediaEq⟩ := kindHeld.origin contentEq
  obtain ⟨u, schemaHeld, uEq⟩ := schemaHeld.origin mediaEq
  exact ⟨u, ⟨contentBefore, mediaBefore, kind, contentHeld, kindHeld, schemaHeld⟩, uEq⟩

theorem RootSchema.origin {v w schema : Value} (converted : v.withTextKeys? = some w)
    (root : RootSchema w schema) : ∃ u, RootSchema v u ∧ u.withTextKeys? = some schema := by
  cases root with
  | component components schemas named =>
      obtain ⟨_, components, componentsEq⟩ := components.origin converted
      obtain ⟨_, schemas, schemasEq⟩ := schemas.origin componentsEq
      obtain ⟨u, named, uEq⟩ := named.origin schemasEq
      exact ⟨u, .component components schemas named, uEq⟩
  | parameter operation parameters listed held =>
      obtain ⟨_, operation, operationEq⟩ := operation.origin converted
      obtain ⟨list, parameters, listEq⟩ := parameters.origin operationEq
      obtain ⟨items, rfl, itemsEq⟩ := eq_list_of_withTextKeys? listEq
      obtain ⟨_, listed, parameterEq⟩ := mem_itemsWithTextKeys? itemsEq listed
      obtain ⟨u, held, uEq⟩ := held.origin parameterEq
      exact ⟨u, .parameter operation parameters listed held, uEq⟩
  | body operation body content =>
      obtain ⟨_, operation, operationEq⟩ := operation.origin converted
      obtain ⟨_, body, bodyEq⟩ := body.origin operationEq
      obtain ⟨u, content, uEq⟩ := content.origin bodyEq
      exact ⟨u, .body operation body content, uEq⟩
  | response operation responses coded content =>
      obtain ⟨_, operation, operationEq⟩ := operation.origin converted
      obtain ⟨_, responses, responsesEq⟩ := responses.origin operationEq
      obtain ⟨_, coded, codedEq⟩ := coded.origin responsesEq
      obtain ⟨u, content, uEq⟩ := content.origin codedEq
      exact ⟨u, .response operation responses coded content, uEq⟩

/-- A schema that stands in a document with texts for keys comes from one that stood in
the document before. -/
theorem SchemaIn.origin {v w schema : Value} (converted : v.withTextKeys? = some w)
    (stands : SchemaIn w schema) : ∃ u, SchemaIn v u ∧ u.withTextKeys? = some schema := by
  rcases stands with ⟨root, rootStands, inside⟩
  obtain ⟨rootBefore, rootStands, rootEq⟩ := rootStands.origin converted
  obtain ⟨u, inside, uEq⟩ := inside.origin rootEq
  exact ⟨u, ⟨rootBefore, rootStands, inside⟩, uEq⟩

end ApiContract.Value
