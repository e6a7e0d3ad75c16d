import Specimen.Proofs.Engine.Guarded
import Specimen.Proofs.Engine.Lengths
import Specimen.Proofs.Engine.Nesting
import Specimen.Proofs.Generator.Texts

namespace Specimen

open Generator (IsBuiltIn IsMailAddress IsStreetAddress)
open Text (IsVisible)

def Json.Legible (v : Json) : Prop := ∀ text, .str text ∈ v.parts → IsVisible text

namespace Json.Legible

lemma str {text : String} (h : IsVisible text) : Legible (.str text) := by
  intro text' ht
  simp only [parts, List.mem_singleton, str.injEq] at ht
  exact ht ▸ h

lemma arr {items : List Json} (h : ∀ v ∈ items, v.Legible) : Legible (.arr items) := by
  intro text ht
  simp only [parts, partsOfItems_eq, List.mem_append, List.mem_flatMap, List.mem_singleton, reduceCtorEq, or_false] at ht
  obtain ⟨v, hv, ht⟩ := ht
  exact h v hv text ht

lemma obj {members : List (String × Json)} (h : ∀ m ∈ members, m.2.Legible) : Legible (.obj members) := by
  intro text ht
  simp only [parts, partsOfMembers_eq, List.mem_append, List.mem_flatMap, List.mem_singleton, reduceCtorEq,
    or_false] at ht
  obtain ⟨m, hm, ht⟩ := ht
  exact h m hm text ht

end Json.Legible

lemma ImageSpec.IsUrl.isVisible {spec : ImageSpec} {base text : String} (h : spec.IsUrl base text) :
    IsVisible text := by
  obtain ⟨stem, slashes, nonce, -, -, -, rfl⟩ := h
  have hslash : IsVisible "/" := ⟨'/', by decide, by decide⟩
  exact (((((hslash.append_left _).append_right _).append_right "/").append_right _).append_right _).append_right _

lemma Generator.text_ofText {σ : Type} (tag : String) (m : StateM σ String) (s : σ) :
    ((ofText tag m).generate s).1.text = (m s).1 := rfl

section

variable {σ : Type} [WordSource σ]

lemma Registry.generatorFor_builtIn (tag : String) :
    ∃ tag' m, IsBuiltIn m ∧ (builtIn : Registry σ).generatorFor tag = .ofText tag' m := by
  rw [generatorFor]
  cases h : (builtIn : Registry σ).find? tag with
  | none => exact ⟨"lorem.word", _, .fillerWord, rfl⟩
  | some g =>
    obtain ⟨m, hm, rfl⟩ := find?_builtIn h
    exact ⟨tag, m, hm, rfl⟩

lemma Registry.isVisible_builtIn (tag : String) (s : σ) : IsVisible ((builtIn.generatorFor tag).generate s).1.text := by
  obtain ⟨tag', m, hm, h⟩ := generatorFor_builtIn (σ := σ) tag
  rw [h, Generator.text_ofText]
  exact hm.always_visible s

lemma Registry.generatorFor_email : (builtIn : Registry σ).generatorFor "email" = .ofText "email" Generator.email := by
  simp [generatorFor, builtIn, find?_register, Generator.ofText]

lemma Registry.generatorFor_address :
    (builtIn : Registry σ).generatorFor "address" = .ofText "address" Generator.address := by
  simp [generatorFor, builtIn, find?_register, Generator.ofText]

lemma Conforms.legible {o : Options} {s : Schema} {v : Json} (h : Conforms (Engine.builtIn σ o) s v) : v.Legible := by
  induction h with
  | scalar source => exact .str (Registry.isVisible_builtIn _ source)
  | image h => exact .str h.isVisible
  | array _ _ _ ih => exact .arr ih
  | object hkeys _ ih =>
    refine .obj ?_
    rintro ⟨name, v⟩ hm
    obtain ⟨hv, s, hs, -⟩ := exists_field hkeys hm
    exact ih name v s hv hs

namespace Engine

variable {o : Options} {schema : Schema} {source : σ}

lemma legible_of_run {count : UInt64} {token : Option Bool} {runId : String} {records : Dataset}
    (h : ((builtIn σ o).run schema count token runId source).outcome = .ok records) : ∀ v ∈ records, v.Legible := by
  obtain ⟨-, w, w', hr⟩ := records_of_run _ h
  intro v hv
  exact ((yields_records _ token.isSome schema count.toNat w records w' hr).2 v hv).legible

lemma legible_of_generate {v : Json} (h : ((builtIn σ o).generate schema source).1 = .ok v) : v.Legible := by
  rw [generate] at h
  split at h
  · cases h
  · split at h <;> cases h
    rename_i hw
    exact (yields_value _ false schema _ _ _ hw).legible

theorem builtIn_texts (σ : Type) [WordSource σ] (o : Options) :
    (∀ tag (s : σ), Text.trim (((builtIn σ o).registry.generatorFor tag).generate s).1.text ≠ "") ∧
    (∀ s : σ, IsMailAddress (((builtIn σ o).registry.generatorFor "email").generate s).1.text) ∧
    (∀ s : σ, IsStreetAddress (((builtIn σ o).registry.generatorFor "address").generate s).1.text) ∧
    (∀ schema count token runId source records,
      ((builtIn σ o).run schema count token runId source).outcome = .ok records →
        ∀ v ∈ records, ∀ text, .str text ∈ v.parts → Text.trim text ≠ "") ∧
    ∀ schema source v, ((builtIn σ o).generate schema source).1 = .ok v →
      ∀ text, .str text ∈ v.parts → Text.trim text ≠ "" := by
  have hregistry : (builtIn σ o).registry = .builtIn := rfl
  rw [hregistry]
  refine ⟨fun tag s => Text.trim_ne_empty_iff.2 (Registry.isVisible_builtIn tag s), fun s => ?_, fun s => ?_,
    fun _ _ _ _ _ _ h v hv text ht => ?_, fun _ _ _ h text ht => ?_⟩
  · rw [Registry.generatorFor_email, Generator.text_ofText]
    exact Generator.always_email s
  · rw [Registry.generatorFor_address, Generator.text_ofText]
    exact Generator.always_address s
  · exact Text.trim_ne_empty_iff.2 (legible_of_run h v hv text ht)
  · exact Text.trim_ne_empty_iff.2 (legible_of_generate h text ht)

theorem builtIn_texts_greeting :
    let run := (builtIn WordCycle {}).run
      (.object [("from", .scalar "email"), ("words", .array 1 2 (.scalar ""))]) 1 none "" ⟨#[0], 0⟩
    let record := Json.obj [("from", .str "aaliyah@example.com"), ("words", .arr [.str "alias"])]
    run.outcome = .ok [record] ∧ Text.trim "aaliyah@example.com" ≠ "" ∧ Text.trim "alias" ≠ "" := by
  intro run record
  have hsome : run.outcome.toOption = some [record] := by decide +kernel
  have hok : run.outcome = .ok [record] := by
    cases hr : run.outcome with
    | error fault => simp [hr, Except.toOption] at hsome
    | ok records => simpa [hr, Except.toOption] using hsome
  obtain ⟨-, -, -, hrun, -⟩ := builtIn_texts WordCycle {}
  have htexts := hrun _ _ _ _ _ _ hok record List.mem_cons_self
  exact ⟨hok, htexts _ (by simp [record, Json.parts, Json.partsOfMembers]), htexts _ (by
    simp [record, Json.parts, Json.partsOfMembers, Json.partsOfItems])⟩

end Engine

end

end Specimen
