import Specimen.Proofs.Engine.Budget
import Specimen.Proofs.Engine.Cancellation
import Specimen.Proofs.Generator.Guarded

namespace Specimen

/-- No generator asks that the run be cancelled. -/
def Registry.Quiet {σ : Type} (r : Registry σ) : Prop := ∀ g, r.Offers g → ∀ s, (g.generate s).1.cancels = false

inductive GenerationError.IsLimit : GenerationError → Prop
  | depthExceeded (limit) : IsLimit (.depthExceeded limit)
  | arrayTooLarge (path maxSize limit) : IsLimit (.arrayTooLarge path maxSize limit)
  | valueBudgetExceeded (limit) : IsLimit (.valueBudgetExceeded limit)

section quiet

variable {σ : Type}

lemma quiet_ofText (tag : String) (text : StateM σ String) (s : σ) :
    ((Generator.ofText tag text).generate s).1.cancels = false := rfl

lemma Registry.quiet_builtIn [WordSource σ] : (builtIn : Registry σ).Quiet := by
  rintro g (⟨tag, hg⟩ | rfl) s
  · have h := Guarded.offers_builtIn (σ := σ) tag
    rw [hg] at h
    generalize (Guarded.builtIn? tag : Option (Guarded σ String)) = guarded at h
    cases h with
    | present => exact quiet_ofText _ _ s
  · have hfallback : (builtIn : Registry σ).fallback = .ofText "lorem.word" Generator.fillerWord := rfl
    rw [hfallback]
    exact quiet_ofText _ _ s

def KeepsToken (w : Walk σ) (_ : List (Stop σ)) (v : Walk σ) : Prop := v.fired = w.fired

lemma lawfulOn_keepsToken {r : Registry σ} (hq : r.Quiet) : LawfulOn r KeepsToken where
  refl _ := rfl
  trans h k := Eq.trans k h
  node _ := rfl
  checkpoint _ := rfl
  change _ _ _ := rfl
  call g hg w := by
    change (w.fired || (g.generate w.source).1.cancels) = w.fired
    rw [hq g hg, Bool.or_false]

end quiet

namespace Engine

variable {σ : Type} [WordSource σ] {e : Engine σ} {schema : Schema} {count : UInt64} {runId : String} {source : σ}

lemma unfired_of_quiet (hq : e.registry.Quiet) : e.Unfired schema count (some false) runId source :=
  .inr ⟨rfl, Tour.obeys_records (lawfulOn_keepsToken hq) _ (fun _ => rfl) _ _ _⟩

lemma run_of_quiet (hq : e.registry.Quiet) (hs : schema.Sized) :
    e.run schema count (some false) runId source = e.run schema count none runId source := by
  cases hl : e.options.checkLimits [] schema with
  | error fault => rw [run_of_checkLimits_eq_error hl, run_of_checkLimits_eq_error hl]
  | ok => rw [run_eq_of_unfired hs hl (unfired_of_quiet hq), run_eq_of_unfired hs hl (.inl rfl)]

lemma isLimit_of_run (hs : schema.Sized) {fault : GenerationError}
    (h : (e.run schema count none runId source).outcome = .error fault) : fault.IsLimit := by
  cases hl : e.options.checkLimits [] schema with
  | error fault' =>
    rw [run_of_checkLimits_eq_error hl] at h
    cases h
    rcases Options.fault_of_checkLimits hl with rfl | ⟨p, maxSize, rfl⟩
    · exact .depthExceeded _
    · exact .arrayTooLarge _ _ _
  | ok =>
    rw [run_eq_of_unfired hs hl (.inl rfl)] at h
    split at h
    · cases h
      exact .valueBudgetExceeded _
    · cases h

lemma length_of_run {token : Option Bool} {records : Dataset}
    (h : (e.run schema count token runId source).outcome = .ok records) : records.length = count.toNat := by
  obtain ⟨-, w, w', hr⟩ := e.records_of_run h
  exact (e.yields_records token.isSome schema count.toNat w records w' hr).1

end Engine

end Specimen
