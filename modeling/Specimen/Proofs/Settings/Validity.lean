import Mathlib.Data.List.Find
import Specimen.Proofs.Text.Visible
import Specimen.Settings.Basic

/-! Faults are looked for in an order, in which the base of image addresses stands last. -/

namespace Specimen.Settings

open Text (isBlank trim trim_ne_empty_iff)

inductive Faulty (s : Settings) : SettingsFault → Prop
  | maxCount : s.maxCount = 0 → Faulty s (.notPositive "max_count")
  | maxDepth : s.maxDepth = 0 → Faulty s (.notPositive "max_depth")
  | maxArrayLen : s.maxArrayLen = 0 → Faulty s (.notPositive "max_array_len")
  | maxValues : s.maxValues = 0 → Faulty s (.notPositive "max_values")
  | generationTimeoutSecs : s.generationTimeoutSecs = 0 → Faulty s (.notPositive "generation_timeout_secs")
  | imageBaseUrl : trim s.imageBaseUrl = "" → Faulty s .blankImageBase

def faultOrder : List SettingsFault :=
  [.notPositive "max_count", .notPositive "max_depth", .notPositive "max_array_len", .notPositive "max_values",
    .notPositive "generation_timeout_secs", .blankImageBase]

def FirstFault (s : Settings) (f : SettingsFault) : Prop :=
  ∃ before after, faultOrder = before ++ f :: after ∧ s.Faulty f ∧ ∀ g ∈ before, ¬ s.Faulty g

section

variable {s : Settings}

lemma faulty_notPositive_iff {name : String} :
    s.Faulty (.notPositive name) ↔ (name, 0) ∈ s.limits := by
  simp only [limits, List.mem_cons, Prod.mk.injEq, List.not_mem_nil, or_false]
  constructor
  · intro h
    generalize hf : SettingsFault.notPositive name = f at h
    cases h <;> cases hf <;> simp_all
  · rintro (⟨rfl, h⟩ | ⟨rfl, h⟩ | ⟨rfl, h⟩ | ⟨rfl, h⟩ | ⟨rfl, h⟩)
    · exact .maxCount h.symm
    · exact .maxDepth h.symm
    · exact .maxArrayLen h.symm
    · exact .maxValues h.symm
    · exact .generationTimeoutSecs h.symm

lemma faulty_blankImageBase_iff : s.Faulty .blankImageBase ↔ s.imageBaseUrl.toList.all isBlank := by
  have hblank : trim s.imageBaseUrl = "" ↔ s.imageBaseUrl.toList.all isBlank := by
    rw [← not_iff_not, ← Ne, trim_ne_empty_iff, Text.IsVisible]
    simp
  constructor
  · intro h
    cases h with
    | imageBaseUrl h => exact hblank.1 h
  · intro h
    exact .imageBaseUrl (hblank.2 h)

instance : DecidablePred s.Faulty
  | .notPositive _ => decidable_of_iff _ faulty_notPositive_iff.symm
  | .blankImageBase => decidable_of_iff _ faulty_blankImageBase_iff.symm

lemma firstFault_iff {f : SettingsFault} : s.FirstFault f ↔ faultOrder.find? (decide <| s.Faulty ·) = some f := by
  rw [List.find?_eq_some_iff_append, FirstFault]
  simp only [decide_eq_true_eq, Bool.not_eq_true', decide_eq_false_iff_not]
  constructor
  · rintro ⟨before, after, horder, hf, hbefore⟩
    exact ⟨hf, before, after, horder, hbefore⟩
  · rintro ⟨hf, before, after, horder, hbefore⟩
    exact ⟨before, after, horder, hf, hbefore⟩

lemma mem_faultOrder {f : SettingsFault} (h : s.Faulty f) : f ∈ faultOrder := by
  cases h <;> decide

lemma faulty_iff_of_mem {l : String × UInt64} (h : l ∈ s.limits) : s.Faulty (.notPositive l.1) ↔ l.2 = 0 := by
  rw [faulty_notPositive_iff]
  simp only [limits, List.mem_cons, List.not_mem_nil, or_false] at h
  rcases h with rfl | rfl | rfl | rfl | rfl <;> simp [limits, eq_comm]

lemma validate_eq : s.validate =
    match faultOrder.find? (decide <| s.Faulty ·) with
    | some f => .error f
    | none => .ok () := by
  have horder : faultOrder = s.limits.map (fun l => .notPositive l.1) ++ [.blankImageBase] := rfl
  have hlimits : s.limits.find? (fun l => decide (s.Faulty (.notPositive l.1))) = s.limits.find? fun l => l.2 = 0 := by
    apply List.find?_congr
    intro l hl
    exact decide_eq_decide.2 (faulty_iff_of_mem hl)
  rw [horder, List.find?_append, List.find?_map, Function.comp_def, hlimits, validate]
  cases s.limits.find? fun l => l.2 = 0 with
  | some l => rfl
  | none =>
    simp only [Option.map_none, Option.none_or, List.find?_cons, List.find?_nil, faulty_blankImageBase_iff]
    cases s.imageBaseUrl.toList.all isBlank <;> rfl

theorem validate_eq_error_iff {f : SettingsFault} : s.validate = .error f ↔ s.FirstFault f := by
  rw [firstFault_iff, validate_eq]
  cases faultOrder.find? (decide <| s.Faulty ·) <;> simp

theorem validate_eq_ok_iff : s.validate = .ok () ↔ ∀ f, ¬ s.Faulty f := by
  rw [validate_eq]
  cases h : faultOrder.find? (decide <| s.Faulty ·) with
  | none =>
    have hnone : ∀ f, ¬ s.Faulty f := fun f hf => by
      have hfind := List.find?_eq_none.1 h f (mem_faultOrder hf)
      exact hfind (decide_eq_true hf)
    exact iff_of_true rfl hnone
  | some f =>
    have hf : s.Faulty f := by simpa using List.find?_some h
    exact iff_of_false (fun h' => by cases h') fun h' => h' f hf

end

end Specimen.Settings
