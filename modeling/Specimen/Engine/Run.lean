import Specimen.Engine.Walk
import Specimen.Envelope

namespace Specimen

structure Run (σ : Type) where
  outcome : Except GenerationError Dataset
  report : Report
  source : σ

namespace Engine

variable {σ : Type} [WordSource σ] (e : Engine σ)

def begin (source : σ) (fired : Bool) (report : Report) : Walk σ := ⟨source, fired, report, 0, 0⟩

def run (schema : Schema) (count : UInt64) (token : Option Bool) (runId : String) (source : σ) : Run σ :=
  let report := Report.new runId count
  match e.options.checkLimits [] schema with
  | .error fault => ⟨.error fault, report, source⟩
  | .ok () =>
    match e.records token.isSome schema count.toNat (begin source (token.getD false) report) with
    | .ok records w =>
      ⟨.ok records, { w.report with recordsGenerated := UInt64.ofNat records.length }, w.source⟩
    | .error fault w => ⟨.error fault, { w.report with recordsGenerated := UInt64.ofNat w.recordsDone }, w.source⟩

def generate (schema : Schema) (source : σ) : Except GenerationError Json × σ :=
  match e.options.checkLimits [] schema with
  | .error fault => (.error fault, source)
  | .ok () =>
    match e.value false schema (begin source false {}) with
    | .ok v w => (.ok v, w.source)
    | .error fault w => (.error fault, w.source)

def describe : String :=
  Text.describe "GenerationEngine" [("options", e.options.describe), ("registry", e.registry.describe)]

end Engine

end Specimen
