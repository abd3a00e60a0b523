import Stencil.Settings.Schema

set_option autoImplicit false

/-!
The settings that hold when nothing else is said, the schema of settings, and the schemas as
documents.
-/

namespace Stencil.Settings

/-- The bundled layer, below all others. -/
def defaults : List (Value × Value) :=
  [(.text "rendering", .ofFields
    [("path_separator", .text "."),
      ("current_value_keys", .list [.text ".", .text "this"]),
      ("escape", .text "html"),
      ("provider", .null),
      ("strict_keys", .bool false),
      ("missing_key_log_level", .text "DEBUG")])]

def renderingSchema : Schema :=
  .map
    [("path_separator", .text true),
      ("current_value_keys", .list (.text true)),
      ("escape", .choice ["html", "none"]),
      ("provider", .textOrNull),
      ("strict_keys", .flag),
      ("missing_key_log_level", .choice ["DEBUG", "INFO", "WARNING", "ERROR", "CRITICAL"])]
    ["path_separator", "current_value_keys", "escape", "strict_keys"] true

def settingsSchema : Schema := .map [("rendering", renderingSchema)] ["rendering"] false

namespace Schema

def texts (names : List String) : Value := .list (names.map .text)

/-- The fields of the document that describes maps with some properties. -/
def objectFields (properties : List (String × Value)) (required : List String) (closed : Bool) :
    List (String × Value) :=
  [("type", .text "object"), ("properties", .ofFields properties), ("required", texts required)] ++
    (if closed then [("additionalProperties", .bool false)] else [])

mutual

/-- The fields of the document that describes a schema. -/
def fields : Schema → List (String × Value)
  | .text nonempty =>
      ("type", .text "string") :: (if nonempty then [("minLength", .int 1)] else [])
  | .choice options => [("type", .text "string"), ("enum", texts options)]
  | .textOrNull => [("type", texts ["string", "null"])]
  | .flag => [("type", .text "boolean")]
  | .list items => [("type", .text "array"), ("items", .ofFields (fields items))]
  | .map properties required closed =>
      objectFields (propertyFields properties) required closed

def propertyFields : List (String × Schema) → List (String × Value)
  | [] => []
  | (name, schema) :: rest => (name, .ofFields (fields schema)) :: propertyFields rest

end

def dialect : String × Value :=
  ("$schema", .text "https://json-schema.org/draft/2020-12/schema")

def settingsDocument : Value :=
  .ofFields (dialect :: ("title", .text "Whisker configuration") :: fields settingsSchema)

def reference (name : String) : Value := .ofFields [("$ref", .text ("#/$defs/" ++ name))]

/-- A closed object of the grammar of templates. -/
def nodeForm (properties : List (String × Value)) (required : List String) : Value :=
  .ofFields (objectFields properties required true)

def typed (type : String) : Value := .ofFields [("type", .text type)]

def nonemptyText : Value := .ofFields [("type", .text "string"), ("minLength", .int 1)]

def sequenceSchema : Value := .ofFields [("type", .text "array"), ("items", reference "node")]

def literalSchema : Value := nodeForm [("literal", typed "string")] ["literal"]

def placeholderSchema : Value :=
  nodeForm [("placeholder", nonemptyText), ("escape", typed "boolean")] ["placeholder"]

def blockSchema : Value :=
  nodeForm [("section", nonemptyText), ("invert", typed "boolean"), ("body", reference "sequence")]
    ["section", "body"]

def nodeSchema : Value :=
  .ofFields [("oneOf", .list
    [typed "string", reference "sequence", literalSchema, placeholderSchema, blockSchema])]

def templateDocument : Value :=
  .ofFields [dialect, ("title", .text "Serialized generator node tree"),
    ("$ref", .text "#/$defs/node"),
    ("$defs", .ofFields [("sequence", sequenceSchema), ("node", nodeSchema)])]

end Schema
end Stencil.Settings
