import Mathlib.Tactic.Lemma
import Specimen.Engine.Report

namespace Specimen

inductive Tally where
  | usage (tag : String)
  | fallback (tag : String)
  | fallbacks
  | images
  deriving DecidableEq

def Report.tally (r : Report) : Tally → UInt64
  | .usage tag => (r.generatorUsage.find? tag).getD 0
  | .fallback tag => (r.fallbackTags.find? tag).getD 0
  | .fallbacks => r.fallbackCount
  | .images => r.imagesGenerated

namespace Report

inductive Event where
  | usage (tag : String)
  | fallback (tag : String)
  | image
  | array (len : UInt64)
  deriving DecidableEq

namespace Event

def counted : Event → List Tally
  | .usage tag => [.usage tag]
  | .fallback tag => [.fallbacks, .fallback tag]
  | .image => [.images]
  | .array _ => []

def isFallback : Event → Bool
  | .fallback _ => true
  | _ => false

def elements : Event → UInt64
  | .array len => len
  | _ => 0

lemma mem_counted_usage (tag : String) (e : Event) : .usage tag ∈ e.counted ↔ e = .usage tag := by
  cases e <;> simp [counted, eq_comm]

lemma mem_counted_fallback (tag : String) (e : Event) : .fallback tag ∈ e.counted ↔ e = .fallback tag := by
  cases e <;> simp [counted, eq_comm]

lemma mem_counted_fallbacks (e : Event) : .fallbacks ∈ e.counted ↔ e.isFallback := by
  cases e <;> simp [counted, isFallback]

lemma mem_counted_images (e : Event) : .images ∈ e.counted ↔ e = .image := by
  cases e <;> simp [counted]

end Event

def apply (r : Report) : Event → Report
  | .usage tag => r.recordUsage tag
  | .fallback tag => r.recordFallback tag
  | .image => r.recordImage
  | .array len => r.recordArray len

lemma addElements_zero (tally : UInt64) : addElements 0 tally = tally := by
  apply UInt64.toNat_inj.1
  have hlt : tally.toNat < UInt64.size := tally.toNat_lt
  rw [toNat_addElements]
  change min (UInt64.size - 1) tally.toNat = _
  omega

lemma getD_find?_countTag (tag other : String) (m : SortedMap UInt64) :
    ((countTag tag m).find? other).getD 0 = (m.find? other).getD 0 + if other = tag then 1 else 0 := by
  rw [find?_countTag]
  split
  · rename_i h
    rw [h, Option.getD_some]
  · rw [UInt64.add_zero]

variable (r : Report) (e : Event)

lemma tally_apply (t : Tally) : (r.apply e).tally t = r.tally t + if t ∈ e.counted then 1 else 0 := by
  cases e with
  | usage tag =>
    cases t with
    | usage other =>
      simpa [Event.counted, apply, recordUsage, tally] using getD_find?_countTag tag other r.generatorUsage
    | fallback | fallbacks | images => simp [Event.counted, apply, recordUsage, tally]
  | fallback tag =>
    cases t with
    | fallback other =>
      simpa [Event.counted, apply, recordFallback, tally] using getD_find?_countTag tag other r.fallbackTags
    | usage | fallbacks | images => simp [Event.counted, apply, recordFallback, tally]
  | image => cases t <;> simp [Event.counted, apply, recordImage, tally]
  | array len => cases t <;> simp [Event.counted, apply, recordArray, tally]

lemma arrayElements_apply : (r.apply e).arrayElements = addElements e.elements r.arrayElements := by
  cases e with
  | array len => rfl
  | usage | fallback | image => exact (addElements_zero _).symm

lemma toNat_tally_apply_le (t : Tally) : ((r.apply e).tally t).toNat ≤ (r.tally t).toNat + 1 := by
  rw [tally_apply]
  split
  · rw [UInt64.toNat_add]
    exact Nat.mod_le _ _
  · rw [UInt64.add_zero]
    exact Nat.le_succ _

end Report

end Specimen
