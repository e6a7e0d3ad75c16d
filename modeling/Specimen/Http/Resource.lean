import Specimen.Http.Message

namespace Specimen.Http

inductive Resource where
  | generateData
  | getData (key : List Char)
  | listFiles
  | deleteData (key : List Char)
  | apiDocs
  | health
  deriving DecidableEq

namespace Resource

def segmentAfter? (stem : String) (path : List Char) : Option (List Char) :=
  if stem.toList.isPrefixOf path then
    let key := path.drop stem.length
    if key = [] ∨ '/' ∈ key then none else some key
  else none

def ofPath? (path : List Char) : Option Resource :=
  if path = "/generate-data".toList then some .generateData
  else if path = "/list-files".toList then some .listFiles
  else if path = "/api-docs".toList then some .apiDocs
  else if path = "/health".toList then some .health
  else
    match segmentAfter? "/get-data/" path, segmentAfter? "/delete-data/" path with
    | some key, _ => some (.getData key)
    | none, some key => some (.deleteData key)
    | none, none => none

def allowed : Resource → String
  | .generateData => "POST"
  | .deleteData _ => "DELETE"
  | .getData _ | .listFiles | .apiDocs | .health => "GET,HEAD"

def allows (r : Resource) (m : Method) : Bool :=
  match r, m with
  | .generateData, .post | .deleteData _, .delete => true
  | .getData _, .get | .listFiles, .get | .apiDocs, .get | .health, .get => true
  | .getData _, .head | .listFiles, .head | .apiDocs, .head | .health, .head => true
  | _, _ => false

end Resource

end Specimen.Http
