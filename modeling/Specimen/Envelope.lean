import Specimen.Json.Record
import Specimen.Request

namespace Specimen

abbrev Dataset := List Json

structure StoredDataset where
  key : String
  data : Dataset
  deriving DecidableEq

structure KeyList where
  files : List String
  deriving DecidableEq

structure Message where
  message : String
  deriving DecidableEq

structure ErrorBody where
  error : String
  deriving DecidableEq

open Json (Format Field Shape)

namespace Request

def format : Format Request where
  fields := [⟨"schema", .optional⟩, ⟨"count", .optional⟩]
  ofSlots := fun (schema, count, ()) => ⟨schema, count⟩
  toSlots r := (r.schema, r.count, ())
  ofSlots_toSlots _ := rfl

end Request

namespace StoredDataset

def format : Format StoredDataset where
  fields := [⟨"key", .text⟩, ⟨"data", .list .any⟩]
  ofSlots := fun (key, data, ()) => ⟨key, data⟩
  toSlots r := (r.key, r.data, ())
  ofSlots_toSlots _ := rfl

end StoredDataset

namespace KeyList

def format : Format KeyList where
  fields := [⟨"files", .list .text⟩]
  ofSlots := fun (files, ()) => ⟨files⟩
  toSlots r := (r.files, ())
  ofSlots_toSlots _ := rfl

end KeyList

namespace Message

def format : Format Message where
  fields := [⟨"message", .text⟩]
  ofSlots := fun (message, ()) => ⟨message⟩
  toSlots r := (r.message, ())
  ofSlots_toSlots _ := rfl

end Message

namespace ErrorBody

def format : Format ErrorBody where
  fields := [⟨"error", .text⟩]
  ofSlots := fun (error, ()) => ⟨error⟩
  toSlots r := (r.error, ())
  ofSlots_toSlots _ := rfl

end ErrorBody

namespace Dataset

def toJson (records : Dataset) : Json := .arr records

def read (text : String) : Except Json.Fault Dataset :=
  Json.document (Json.Shape.read (.list .any) Json.maxNesting) text

end Dataset

end Specimen
