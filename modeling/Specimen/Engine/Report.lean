import Specimen.Json.Record

namespace Specimen

structure Report where
  runId : String := ""
  recordsRequested : UInt64 := 0
  recordsGenerated : UInt64 := 0
  generatorUsage : SortedMap UInt64 := {}
  fallbackCount : UInt64 := 0
  fallbackTags : SortedMap UInt64 := {}
  imagesGenerated : UInt64 := 0
  arrayElements : UInt64 := 0
  durationMs : UInt64 := 0

namespace Report

def new (runId : String) (requested : UInt64) : Report := { runId, recordsRequested := requested }

def countTag (tag : String) (m : SortedMap UInt64) : SortedMap UInt64 :=
  m.alter tag fun n => n.getD 0 + 1

def recordUsage (tag : String) (r : Report) : Report :=
  { r with generatorUsage := countTag tag r.generatorUsage }

def recordFallback (tag : String) (r : Report) : Report :=
  { r with fallbackCount := r.fallbackCount + 1, fallbackTags := countTag tag r.fallbackTags }

def recordImage (r : Report) : Report := { r with imagesGenerated := r.imagesGenerated + 1 }

def addElements (len tally : UInt64) : UInt64 :=
  if tally.toNat + len.toNat < UInt64.size then tally + len else 0xffffffffffffffff

def recordArray (len : UInt64) (r : Report) : Report :=
  { r with arrayElements := addElements len r.arrayElements }

theorem find?_countTag (tag other : String) (m : SortedMap UInt64) :
    (countTag tag m).find? other = if other = tag then some ((m.find? tag).getD 0 + 1) else m.find? other :=
  SortedMap.find?_insert _ _ _ _

theorem toNat_addElements (len tally : UInt64) :
    (addElements len tally).toNat = min (UInt64.size - 1) (tally.toNat + len.toNat) := by
  rw [addElements]
  split
  · rename_i h
    rw [UInt64.toNat_add, Nat.mod_eq_of_lt h, Nat.min_eq_right (by omega)]
  · rw [Nat.min_eq_left (by omega)]
    rfl

def format : Json.Format Report where
  fields := [⟨"run_id", .text⟩, ⟨"records_requested", .natural⟩, ⟨"records_generated", .natural⟩,
    ⟨"generator_usage", .tally⟩, ⟨"fallback_count", .natural⟩, ⟨"fallback_tags", .tally⟩,
    ⟨"images_generated", .natural⟩, ⟨"array_elements", .natural⟩, ⟨"duration_ms", .natural⟩]
  ofSlots := fun (id, requested, generated, usage, fallbacks, tags, images, elements, duration, ()) =>
    ⟨id, requested, generated, usage, fallbacks, tags, images, elements, duration⟩
  toSlots r := (r.runId, r.recordsRequested, r.recordsGenerated, r.generatorUsage, r.fallbackCount,
    r.fallbackTags, r.imagesGenerated, r.arrayElements, r.durationMs, ())
  ofSlots_toSlots _ := rfl

end Report

end Specimen
