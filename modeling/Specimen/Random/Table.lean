import Specimen.Random.Source

namespace Specimen

structure Table (α : Type) where
  entries : Array α
  size_pos : 0 < entries.size

namespace Table

variable {σ α : Type} [WordSource σ]

def pick (t : Table α) : StateM σ α := do
  let i ← below .half t.entries.size t.size_pos
  return t.entries[i]

end Table

end Specimen
