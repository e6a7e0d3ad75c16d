import Specimen.Engine.Run
import Specimen.Http.MediaType
import Specimen.Http.Message
import Specimen.Log.Filter
import Specimen.Store.Basic

/-! Each operation ends in a value or in an `ApiError`, whose status and message say no more than a client may
know. -/

namespace Specimen.Http

inductive BodyError where
  | wrongMediaType
  | tooLong
  | notJson
  | wrongShape
  deriving DecidableEq

namespace BodyError

def message : BodyError → String
  | .wrongMediaType => "Expected request with `Content-Type: application/json`"
  | .tooLong => "Failed to buffer the request body: length limit exceeded"
  | .notJson => "Failed to parse the request body as JSON"
  | .wrongShape => "Failed to deserialize the JSON body into the target type"

end BodyError

inductive ApiError where
  | badRequest (message : String)
  | notFound
  | unavailable (message : String)
  | internal (detail : String)
  deriving DecidableEq

namespace ApiError

def ofBody (e : BodyError) : ApiError := .badRequest e.message

def ofRequest (e : RequestError) : ApiError := .badRequest e.message

def ofGeneration (e : GenerationError) : ApiError :=
  match e with
  | .cancelled _ => .unavailable "generation was cancelled"
  | .depthExceeded _ | .arrayTooLarge _ _ _ | .valueBudgetExceeded _ => .badRequest e.message
  | .noLength _ _ => .internal e.message

def timedOut (limitMs : Nat) : ApiError := .unavailable s!"generation did not finish within {limitMs} ms"

def ofStore (e : StoreError) : ApiError :=
  match e with
  | .notFound _ => .notFound
  | .files _ _ | .json _ _ => .internal e.message

def status : ApiError → Nat
  | .badRequest _ => 400
  | .notFound => 404
  | .unavailable _ => 503
  | .internal _ => 500

def message : ApiError → String
  | .badRequest message | .unavailable message => message
  | .notFound => "Data not found for the given key"
  | .internal _ => "Internal server error"

/-- What the log is told. -/
def logged? : ApiError → Option (Log.Level × String)
  | .internal detail => some (.error, detail)
  | .unavailable message => some (.warn, message)
  | .badRequest _ | .notFound => none

end ApiError

structure Config where
  maxCount : UInt64 := 100000
  timeoutMs : Nat := 30000
  deriving DecidableEq

/-- What chance decides about a request: the source of words for its records, the key of its dataset, and
whether time runs out before the records are there. -/
structure Chance (σ : Type) where
  source : σ
  key : String
  timesOut : Bool

structure Service (σ : Type) (m : Type → Type) where
  engine : Engine σ
  store : Store m
  config : Config

def maxBody : Nat := 2097152

def readBody (r : Request) : Except BodyError Specimen.Request :=
  match (r.header? "content-type").bind MediaType.ofText? with
  | none => .error .wrongMediaType
  | some type =>
    if !type.isJson then .error .wrongMediaType
    else if maxBody < r.body.size then .error .tooLong
    else
      match String.fromUTF8? r.body with
      | none => .error .notJson
      | some text =>
        match Specimen.Request.format.read text with
        | .ok request => .ok request
        | .error .malformed => .error .notJson
        | .error .mismatch => .error .wrongShape

namespace Service

variable {σ : Type} {m : Type → Type} [WordSource σ] [Monad m] (s : Service σ m)

/-- The records that a request asks for, if time allows. The run has a token, which nobody fires while
its records are waited for. -/
def generate (chance : Chance σ) (r : Request) : Except ApiError Dataset :=
  match readBody r with
  | .error e => .error (.ofBody e)
  | .ok request =>
    match request.validate s.config.maxCount with
    | .error e => .error (.ofRequest e)
    | .ok valid =>
      if chance.timesOut then .error (.timedOut s.config.timeoutMs)
      else (s.engine.run valid.schema valid.count (some false) "" chance.source).outcome.mapError .ofGeneration

def generateData (chance : Chance σ) (r : Request) : ExceptT ApiError m StoredDataset :=
  match s.generate chance r with
  | .error e => throw e
  | .ok records => do
    let key ← (s.store.put chance.key records).adapt .ofStore
    return ⟨key, records⟩

def getData (key : String) : ExceptT ApiError m Dataset := (s.store.get key).adapt .ofStore

def listFiles : ExceptT ApiError m KeyList := do
  let keys ← s.store.list.adapt ApiError.ofStore
  return ⟨keys⟩

def deleteData (key : String) : ExceptT ApiError m Message := do
  (s.store.delete key).adapt ApiError.ofStore
  return ⟨"File deleted successfully"⟩

end Service

end Specimen.Http
