import Specimen.Json.Record
import Specimen.Text.Quoted

namespace Specimen

structure Options where
  maxDepth : UInt64 := 64
  maxArrayLen : UInt64 := 10000
  maxValues : UInt64 := 10000000
  imageBaseUrl : String := "https://picsum.photos"
  deriving DecidableEq

namespace Options

def format : Json.Format Options where
  fields := [⟨"max_depth", .natural⟩, ⟨"max_array_len", .natural⟩, ⟨"max_values", .natural⟩,
    ⟨"image_base_url", .text⟩]
  ofSlots := fun (depth, len, values, url, ()) => ⟨depth, len, values, url⟩
  toSlots o := (o.maxDepth, o.maxArrayLen, o.maxValues, o.imageBaseUrl, ())
  ofSlots_toSlots _ := rfl

def describe (o : Options) : String :=
  Text.describe "GenerateOptions"
    [("max_depth", toString o.maxDepth), ("max_array_len", toString o.maxArrayLen),
      ("max_values", toString o.maxValues), ("image_base_url", Text.quote o.imageBaseUrl)]

end Options

end Specimen
