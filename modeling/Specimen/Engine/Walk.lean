import Specimen.Engine.Limits
import Specimen.Engine.Report
import Specimen.Generator.Basic
import Specimen.Generator.ImageUrl
import Specimen.Json.Basic

/-! A walk that ends in an error leaves behind what it drew and counted so far. A cancelled run is noticed only
at checkpoints: before each record and before each element of an array. -/

namespace Specimen

structure Walk (σ : Type) where
  source : σ
  fired : Bool
  report : Report
  values : Nat
  recordsDone : Nat

abbrev Walker (σ : Type) := EStateM GenerationError (Walk σ)

structure Engine (σ : Type) where
  options : Options
  registry : Registry σ

namespace Walker

variable {σ α : Type}

def draw (m : StateM σ α) : Walker σ α := fun w =>
  match m w.source with
  | (a, s) => .ok a { w with source := s }

def record (f : Report → Report) : Walker σ Unit := fun w => .ok () { w with report := f w.report }

def spend (limit : UInt64) : Walker σ Unit := fun w =>
  if limit.toNat ≤ w.values then .error (.valueBudgetExceeded limit) w
  else .ok () { w with values := w.values + 1 }

def checkpoint (watched : Bool) : Walker σ Unit := fun w =>
  if watched && w.fired then .error (.cancelled w.recordsDone) w else .ok () w

def call (g : Generator σ) : Walker σ String := fun w =>
  match g.generate w.source with
  | (sample, s) => .ok sample.text { w with source := s, fired := w.fired || sample.cancels }

def finishRecord : Walker σ Unit := fun w => .ok () { w with recordsDone := w.recordsDone + 1 }

def gather (step : Walker σ α) : Nat → List α → Walker σ (List α)
  | 0, before => pure before.reverse
  | n + 1, before => do
    let a ← step
    gather step n (a :: before)

end Walker

namespace Engine

open Walker

variable {σ : Type} [WordSource σ] (e : Engine σ) (watched : Bool)

def scalar (tag : String) : Walker σ String := do
  match e.registry.find? tag with
  | some g =>
    record (Report.recordUsage g.tag)
    call g
  | none =>
    record (Report.recordFallback tag)
    call e.registry.fallback

def image (spec : ImageSpec) : Walker σ String := do
  record Report.recordImage
  draw (spec.drawUrl e.options.imageBaseUrl)

/-- The width of the words for a length depends on the greatest size alone. -/
def length (minSize maxSize : UInt64) : Walker σ UInt64 := fun w =>
  if h : minSize.toNat ≤ maxSize.toNat then
    draw (UInt64.ofNat <$> between (.toReach maxSize.toNat) minSize.toNat maxSize.toNat h) w
  else .error (.noLength minSize maxSize) w

mutual

def value : Schema → Walker σ Json
  | .scalar tag => do
    spend e.options.maxValues
    return .str (← e.scalar tag)
  | .image spec => do
    spend e.options.maxValues
    return .str (← e.image spec)
  | .object fields => do
    spend e.options.maxValues
    return .obj (← members fields [])
  | .array minSize maxSize element => do
    spend e.options.maxValues
    let len ← length minSize maxSize
    let items ← gather (do checkpoint watched; value element) len.toNat []
    record (Report.recordArray len)
    return .arr items

def members : List (String × Schema) → List (String × Json) → Walker σ (List (String × Json))
  | [], before => pure before
  | (name, s) :: rest, before => do
    let v ← value s
    members rest (Entries.set name v before)

end

def records (schema : Schema) (count : Nat) : Walker σ (List Json) :=
  gather (do
    checkpoint watched
    let v ← e.value watched schema
    finishRecord
    return v) count []

end Engine

end Specimen
