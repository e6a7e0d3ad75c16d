import Specimen.Json.Basic

namespace Specimen.ApiSchemas

open Json

def record (title description : String) (required : List String) (properties : List (String × Json)) :
    String × Json :=
  (title, .obj ([("$schema", .str "http://json-schema.org/draft-07/schema#"), ("title", .str title),
    ("description", .str description), ("type", .str "object")] ++
    (if required = [] then [] else [("required", .arr (required.map .str))]) ++
    [("properties", .obj properties)]))

def describedText (description : String) : Json :=
  .obj [("description", .str description), ("type", .str "string")]

def anyValue (description : String) : Json := .obj [("description", .str description), ("default", .null)]

def plainText : Json := .obj [("type", .str "string")]

def all : Json :=
  .obj [
    record "ErrorResponse" "Body of every error response." ["error"] [("error", plainText)],
    record "GenerateDataRequest"
      "Body of `POST /generate-data`.\n\nBoth members stay loosely typed so that missing and falsy values can be told apart from malformed ones during validation."
      [] [("count", anyValue "Number of records to generate; a positive integer."),
        ("schema", anyValue "Declarative description of one record.")],
    record "GenerateDataResponse" "Body returned by `POST /generate-data`." ["data", "key"]
      [("data", .obj [("description", .str "The generated records."), ("type", .str "array"), ("items", .bool true)]),
        ("key", describedText "Key under which the dataset was stored.")],
    record "ListFilesResponse" "Body returned by `GET /list-files`." ["files"]
      [("files", .obj [("type", .str "array"), ("items", plainText)])],
    record "MessageResponse" "Body returned by successful deletes." ["message"] [("message", plainText)]]

end Specimen.ApiSchemas
