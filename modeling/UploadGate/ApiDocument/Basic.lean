import UploadGate.Json.Value
import UploadGate.Number.Numeral

/-! # Descriptions of interfaces

A document that describes an interface for programs: its operations with their parameters and
answers, and the shapes of what is sent back and forth. It is written in the OpenAPI format.
-/

namespace UploadGate

/-- A parameter of an operation. -/
structure Parameter where
  name : String
  place : String
  description : String

structure Operation where
  method : String
  path : String
  name : String
  summary : String
  tag : String
  parameters : List Parameter := []
  /-- The shape of the body of a request. -/
  body : Option String := none
  /-- The answers by status, with the shape of the body if it is described. -/
  responses : List (Nat × String × Option String)

/-- The type of a member of a shape. -/
inductive Shape where
  | text
  | integer
  | flag
  | time
  | anything
  | named (name : String)
  | list (item : Shape)
  | table (value : Shape)
  | optional (shape : Shape)

structure Member where
  name : String
  shape : Shape
  description : String
  required : Bool := true

structure Component where
  name : String
  description : String
  members : List Member

structure Tag where
  name : String
  description : String

structure ApiDocument where
  title : String
  version : String
  description : String
  tags : List Tag
  operations : List Operation
  components : List Component

namespace ApiDocument

/-- A reference to a component. -/
def reference (name : String) : Json.Value :=
  .ofMembers [("$ref", .string ("#/components/schemas/" ++ name))]

def shapeJson : Shape → Json.Value
  | .text => .ofMembers [("type", .string "string")]
  | .integer => .ofMembers [("type", .string "integer"), ("format", .string "int64")]
  | .flag => .ofMembers [("type", .string "boolean")]
  | .time => .ofMembers [("type", .string "string"), ("format", .string "date-time")]
  | .anything => .ofMembers []
  | .named name => reference name
  | .list item => .ofMembers [("type", .string "array"), ("items", shapeJson item)]
  | .table value =>
    .ofMembers [("type", .string "object"), ("additionalProperties", shapeJson value)]
  | .optional shape =>
    .ofMembers [("oneOf", .array [.ofMembers [("type", .string "null")], shapeJson shape])]

/-- A value with a description, if there is one. -/
def described (description : String) (value : Json.Value) : Json.Value :=
  match value with
  | .object members =>
    if description = "" then value
    else .ofMembers (members ++ [("description", .string description)])
  | _ => value

def componentJson (component : Component) : Json.Value :=
  .ofMembers
    [("type", .string "object"), ("description", .string component.description),
      ("required", .strings ((component.members.filter (·.required)).map (·.name))),
      ("properties", .ofMembers (component.members.map fun member =>
        (member.name, described member.description (shapeJson member.shape))))]

/-- The JSON content of a body. -/
def contentJson (name : String) : Json.Value :=
  .ofMembers [("application/json", .ofMembers [("schema", reference name)])]

def parameterJson (parameter : Parameter) : Json.Value :=
  .ofMembers
    [("name", .string parameter.name), ("in", .string parameter.place),
      ("description", .string parameter.description), ("required", .bool true),
      ("schema", shapeJson .text)]

def responseJson (description : String) (body : Option String) : Json.Value :=
  .ofPresent
    [("description", some (.string description)), ("content", body.map contentJson)]

def operationJson (operation : Operation) : Json.Value :=
  .ofPresent
    [("tags", some (.strings [operation.tag])), ("summary", some (.string operation.summary)),
      ("operationId", some (.string operation.name)),
      ("parameters", if operation.parameters.isEmpty then none
        else some (.array (operation.parameters.map parameterJson))),
      ("requestBody", operation.body.map fun name =>
        .ofMembers [("content", contentJson name), ("required", .bool true)]),
      ("responses", some (.ofMembers (operation.responses.map fun (status, description, body) =>
        (Numeral.text status, responseJson description body))))]

/-- The operations at a path. -/
def pathJson (operations : List Operation) (path : String) : Json.Value :=
  .ofMembers ((operations.filter (·.path = path)).map fun operation =>
    (operation.method, operationJson operation))

def toJson (document : ApiDocument) : Json.Value :=
  .ofMembers
    [("openapi", .string "3.1.0"),
      ("info", .ofMembers
        [("title", .string document.title), ("version", .string document.version),
          ("description", .string document.description)]),
      ("tags", .array (document.tags.map fun tag =>
        .ofMembers [("name", .string tag.name), ("description", .string tag.description)])),
      ("paths", .ofMembers (document.operations.map fun operation =>
        (operation.path, pathJson document.operations operation.path))),
      ("components", .ofMembers [("schemas", .ofMembers (document.components.map fun component =>
        (component.name, componentJson component)))])]

end ApiDocument

end UploadGate
