import Specimen.SortedMap
import Specimen.Text.Quoted

namespace Specimen

structure Sample where
  text : String
  cancels : Bool
  deriving DecidableEq

structure Generator (σ : Type) where
  tag : String
  generate : StateM σ Sample

namespace Generator

variable {σ : Type}

def ofText (tag : String) (text : StateM σ String) : Generator σ where
  tag := tag
  generate := do
    let s ← text
    return ⟨s, false⟩

end Generator

structure Registry (σ : Type) where
  generators : SortedMap (StateM σ Sample)
  fallback : Generator σ

namespace Registry

variable {σ : Type}

def register (r : Registry σ) (g : Generator σ) : Registry σ :=
  { r with generators := r.generators.insert g.tag g.generate }

def find? (r : Registry σ) (tag : String) : Option (Generator σ) :=
  (r.generators.find? tag).map (⟨tag, ·⟩)

def tags (r : Registry σ) : List String := r.generators.keys

def describe (r : Registry σ) : String :=
  Text.describe "GeneratorRegistry"
    [("tags", Text.describeList (r.tags.map Text.quote)), ("fallback", Text.quote r.fallback.tag)]

theorem find?_register (r : Registry σ) (g : Generator σ) (tag : String) :
    (r.register g).find? tag = if tag = g.tag then some g else r.find? tag := by
  rw [find?, register, SortedMap.find?_insert]
  split
  · rename_i h
    simp [h]
  · rfl

theorem tags_sorted (r : Registry σ) : r.tags.Pairwise (· < ·) := r.generators.keys_sorted

end Registry

end Specimen
