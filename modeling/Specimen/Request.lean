import Specimen.Schema.Normal

namespace Specimen

structure Request where
  schema : Option Json
  count : Option Json
  deriving DecidableEq

inductive RequestError where
  | missingInput
  | countNotPositive
  | countAbove (maxCount : UInt64)
  | badSchema (e : SchemaError)
  deriving DecidableEq

structure ValidRequest where
  schema : Schema
  count : UInt64
  deriving DecidableEq

namespace Request

def ofCount (schema : Json) (count : UInt64) : Request := ⟨some schema, some (.nat count)⟩

def validate (maxCount : UInt64) (r : Request) : Except RequestError ValidRequest :=
  match r.schema.filter Json.isTruthy, r.count.filter Json.isTruthy with
  | some schema, some count =>
    match count.natural? with
    | none => .error .countNotPositive
    | some n =>
      if maxCount < n then .error (.countAbove maxCount)
      else
        match Schema.ofJson schema with
        | .error e => .error (.badSchema e)
        | .ok s => .ok ⟨s, n⟩
  | _, _ => .error .missingInput

end Request

namespace SchemaError

def path : SchemaError → Schema.Path
  | .sizesInverted p _ _ | .tooDeep p => p

def message : SchemaError → String
  | .sizesInverted p a b => s!"invalid schema at {p.text}: array size [{a}, {b}] has min greater than max"
  | .tooDeep p => s!"schema at {p.text} nests deeper than {Schema.maxDepth} levels"

end SchemaError

namespace RequestError

def message : RequestError → String
  | .missingInput => "Please provide a valid schema and count"
  | .countNotPositive => "count must be a positive integer"
  | .countAbove n => s!"count must not exceed {n}"
  | .badSchema e => e.message

end RequestError

end Specimen
