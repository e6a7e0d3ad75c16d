import Specimen.ApiSchemas
import Specimen.Http.Api
import Specimen.Http.Percent
import Specimen.Http.Resource

namespace Specimen.Http

namespace Response

def shared (status : Nat) (headers : List (String × String)) (body : String) : Response :=
  ⟨status, ("access-control-allow-origin", "*") :: headers, body⟩

def json (status : Nat) (v : Json) : Response := shared status [("content-type", "application/json")] v.compact

def plain (status : Nat) (text : String) : Response :=
  shared status [("content-type", "text/plain; charset=utf-8")] text

def ofError (e : ApiError) : Response := json e.status (ErrorBody.format.toJson ⟨e.message⟩)

def ofResult {α : Type} (encode : α → Json) : Except ApiError α → Response
  | .ok a => json 200 (encode a)
  | .error e => ofError e

def undecodableKey : Response := plain 400 "Invalid URL: Invalid UTF-8 in `key`"

def options (r : Option Resource) : Response :=
  let allow := match r with
    | some r => [("allow", r.allowed)]
    | none => []
  shared 200 (("access-control-allow-methods", "*") :: allow) ""

end Response

namespace Service

variable {σ : Type} {m : Type → Type} [WordSource σ] [Monad m] (s : Service σ m)

def withKey (segment : List Char) (next : String → m Response) : m Response :=
  match Percent.decode? segment with
  | some key => next key
  | none => pure Response.undecodableKey

def answer (chance : Chance σ) (r : Request) : Resource → m Response
  | .generateData => do
    let result ← (s.generateData chance r).run
    return .ofResult StoredDataset.format.toJson result
  | .getData segment => withKey segment fun key => do
    let result ← (s.getData key).run
    return .ofResult Dataset.toJson result
  | .listFiles => do
    let result ← s.listFiles.run
    return .ofResult KeyList.format.toJson result
  | .deleteData segment => withKey segment fun key => do
    let result ← (s.deleteData key).run
    return .ofResult Message.format.toJson result
  | .apiDocs => pure (.json 200 ApiSchemas.all)
  | .health => pure (.plain 200 "OK")

def handle (chance : Chance σ) (r : Request) : m Response :=
  let resource := Resource.ofPath? r.path
  if r.method = .options then pure (.options resource)
  else
    match resource with
    | none => pure (.shared 404 [] "")
    | some resource =>
      if resource.allows r.method then do
        let response ← s.answer chance r resource
        return if r.method = .head then { response with body := "" } else response
      else pure (.shared 405 [("allow", resource.allowed)] "")

end Service

end Specimen.Http
