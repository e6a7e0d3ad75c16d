import Specimen.Proofs.Engine.Guarded
import Specimen.Proofs.Engine.Results

/-! Two walks from one source side by side, one of which has made values before. They count the same, unless the
budget of the one that started earlier ends first. -/

namespace Specimen

open EStateM (Result)

namespace Report

structure Counts (f : Report → Report) : Prop where
  tally : ∀ t, ∃ d, ∀ r, (f r).tally t = r.tally t + d
  arrayElements : ∃ len, ∀ r, (f r).arrayElements = addElements len r.arrayElements

structure Totals (r base later : Report) : Prop where
  tally : ∀ t, r.tally t = base.tally t + later.tally t
  arrayElements : r.arrayElements = addElements later.arrayElements base.arrayElements

lemma addElements_addElements (a b c : UInt64) : addElements a (addElements b c) = addElements (addElements a b) c := by
  apply UInt64.toNat_inj.1
  simp only [toNat_addElements]
  omega

lemma Totals.change {r base later : Report} (h : r.Totals base later) {f : Report → Report} (hf : Counts f) :
    (f r).Totals base (f later) where
  tally t := by
    obtain ⟨d, hd⟩ := hf.tally t
    rw [hd, hd, h.tally, UInt64.add_assoc]
  arrayElements := by
    obtain ⟨len, hlen⟩ := hf.arrayElements
    rw [hlen, hlen, h.arrayElements, addElements_addElements]

lemma tally_new (runId : String) (requested : UInt64) (t : Tally) : (new runId requested).tally t = 0 := by
  cases t <;> rfl

lemma totals_new (r : Report) (runId : String) (requested : UInt64) : r.Totals r (new runId requested) where
  tally t := by rw [tally_new, UInt64.add_zero]
  arrayElements := (addElements_zero _).symm

lemma counts_apply (e : Event) : Counts (·.apply e) where
  tally t := ⟨_, fun r => r.tally_apply e t⟩
  arrayElements := ⟨_, fun r => r.arrayElements_apply e⟩

end Report

structure InStep {σ : Type} (before : Nat) (base : Report) (u w : Walk σ) : Prop where
  source : u.source = w.source
  values : u.values = before + w.values
  report : u.report.Totals base w.report

inductive Pace {σ α : Type} (limit : UInt64) (before : Nat) (base : Report) :
    Result GenerationError (Walk σ) α → Result GenerationError (Walk σ) α → Prop
  | ok {a u w} : InStep before base u w → Pace limit before base (.ok a u) (.ok a w)
  | error {fault u w} : u.source = w.source → Pace limit before base (.error fault u) (.error fault w)
  | short {u r} : 0 < before → (∀ a w, r = .ok a w → limit.toNat < before + w.values) →
      Pace limit before base (.error (.valueBudgetExceeded limit) u) r

structure KeepsPace {σ α : Type} (limit : UInt64) (before : Nat) (base : Report) (m : Walker σ α) : Prop where
  values_le : ∀ w a w', m w = .ok a w' → w.values ≤ w'.values
  pace : ∀ u w, InStep before base u w → Pace limit before base (m u) (m w)

namespace KeepsPace

open Walker

variable {σ α β : Type} {limit : UInt64} {before : Nat} {base : Report} {m : Walker σ α}

lemma pure (a : α) : KeepsPace limit before base (Pure.pure a : Walker σ α) where
  values_le w b w' h := by
    obtain ⟨-, rfl⟩ := pure_eq_ok_iff.1 h
    exact Nat.le_refl _
  pace u w h := .ok h

lemma bind {f : α → Walker σ β} (hm : KeepsPace limit before base m) (hf : ∀ a, KeepsPace limit before base (f a)) :
    KeepsPace limit before base (m >>= f) where
  values_le w b w' h := by
    obtain ⟨a, v, ha, hb⟩ := bind_eq_ok_iff.1 h
    exact Nat.le_trans (hm.values_le w a v ha) ((hf a).values_le v b w' hb)
  pace u w h := by
    have hpace := hm.pace u w h
    change Pace limit before base (EStateM.bind m f u) (EStateM.bind m f w)
    rw [EStateM.bind, EStateM.bind]
    generalize m u = r at hpace ⊢
    cases hw : m w with
    | ok a w' =>
      rw [hw] at hpace
      cases hpace with
      | ok hstep => exact (hf a).pace _ _ hstep
      | short hpos hlong =>
        -- the walk that began later goes on, and it has too many values already
        refine .short hpos fun b w'' hb => ?_
        have hmore := (hf a).values_le w' b w'' hb
        have hless := hlong a w' rfl
        omega
    | error fault w' =>
      rw [hw] at hpace
      cases hpace with
      | error hsource => exact .error hsource
      | short hpos _ => exact .short hpos fun _ _ he => by cases he

lemma of_total {f : Walk σ → α × Walk σ} (hm : ∀ w, m w = .ok (f w).1 (f w).2)
    (hvalues : ∀ w, (f w).2.values = w.values)
    (hf : ∀ u w, InStep before base u w → (f u).1 = (f w).1 ∧ InStep before base (f u).2 (f w).2) :
    KeepsPace limit before base m where
  values_le w a w' h := by
    cases (hm w).symm.trans h
    exact Nat.le_of_eq (hvalues w).symm
  pace u w h := by
    obtain ⟨hvalue, hstep⟩ := hf u w h
    rw [hm u, hm w, hvalue]
    exact .ok hstep

lemma gather (hm : KeepsPace limit before base m) (n : Nat) (l : List α) :
    KeepsPace limit before base (Walker.gather m n l) := by
  induction n generalizing l with
  | zero => exact .pure _
  | succ n ih => exact hm.bind fun a => ih (a :: l)

end KeepsPace

namespace Walker

variable {σ α : Type} {limit : UInt64} {before : Nat} {base : Report}

lemma keepsPace_draw (d : StateM σ α) : KeepsPace limit before base (draw d) := by
  refine .of_total (f := fun w => ((d w.source).1, { w with source := (d w.source).2 })) (fun _ => rfl)
    (fun _ => rfl) fun u w h => ?_
  dsimp only
  rw [h.source]
  exact ⟨rfl, rfl, h.values, h.report⟩

lemma keepsPace_call (g : Generator σ) : KeepsPace limit before base (call g) := by
  refine .of_total (f := fun w => ((g.generate w.source).1.text,
    { w with source := (g.generate w.source).2, fired := w.fired || (g.generate w.source).1.cancels }))
    (fun _ => rfl) (fun _ => rfl) fun u w h => ?_
  dsimp only
  rw [h.source]
  exact ⟨rfl, rfl, h.values, h.report⟩

lemma keepsPace_record {f : Report → Report} (hf : Report.Counts f) :
    KeepsPace limit before base (record f : Walker σ Unit) :=
  .of_total (f := fun w => ((), { w with report := f w.report })) (fun _ => rfl) (fun _ => rfl)
    fun _ _ h => ⟨rfl, h.source, h.values, h.report.change hf⟩

lemma keepsPace_finishRecord : KeepsPace limit before base (finishRecord : Walker σ Unit) :=
  .of_total (f := fun w => ((), { w with recordsDone := w.recordsDone + 1 })) (fun _ => rfl) (fun _ => rfl)
    fun _ _ h => ⟨rfl, h.source, h.values, h.report⟩

lemma keepsPace_checkpoint : KeepsPace limit before base (checkpoint false : Walker σ Unit) :=
  .of_total (f := fun w => ((), w)) (fun _ => rfl) (fun _ => rfl) fun _ _ h => ⟨rfl, h⟩

lemma keepsPace_spend : KeepsPace limit before base (spend limit : Walker σ Unit) where
  values_le w a w' h := by
    rw [spend] at h
    split at h <;> cases h
    exact Nat.le_succ _
  pace u w h := by
    have hvalues := h.values
    rw [spend, spend]
    -- the budget ends for both at once only if it would for the walk that began later by itself
    split
    · rename_i hu
      split
      · exact .error h.source
      · refine .short (by omega) fun _ w' hw => ?_
        cases hw
        dsimp only
        omega
    · rename_i hu
      rw [if_neg (by omega)]
      exact .ok ⟨h.source, by dsimp only; omega, h.report⟩

end Walker

namespace Engine

open Walker

variable {σ : Type} (e : Engine σ) {limit : UInt64} {before : Nat} {base : Report}

lemma keepsPace_scalar (tag : String) : KeepsPace limit before base (e.scalar tag) := by
  rw [scalar]
  split
  · exact (keepsPace_record (Report.counts_apply (.usage _))).bind fun _ => keepsPace_call _
  · exact (keepsPace_record (Report.counts_apply (.fallback _))).bind fun _ => keepsPace_call _

variable [WordSource σ]

lemma keepsPace_image (spec : ImageSpec) : KeepsPace limit before base (e.image spec) :=
  (keepsPace_record (Report.counts_apply .image)).bind fun _ => keepsPace_draw _

lemma keepsPace_length (minSize maxSize : UInt64) :
    KeepsPace limit before base (length minSize maxSize : Walker σ UInt64) := by
  by_cases h : minSize.toNat ≤ maxSize.toNat
  · have hlength : (length minSize maxSize : Walker σ UInt64) =
        draw (UInt64.ofNat <$> between (.toReach maxSize.toNat) minSize.toNat maxSize.toNat h) := by
      funext w
      rw [length, dif_pos h]
    rw [hlength]
    exact keepsPace_draw _
  · refine ⟨fun w a w' he => ?_, fun u w hstep => ?_⟩
    · rw [length, dif_neg h] at he
      cases he
    · rw [length, length, dif_neg h, dif_neg h]
      exact .error hstep.source

mutual

lemma keepsPace_value (before : Nat) (base : Report) : (s : Schema) →
    KeepsPace e.options.maxValues before base (e.value false s)
  | .scalar tag => by
    rw [value]
    exact keepsPace_spend.bind fun _ => (e.keepsPace_scalar tag).bind fun _ => .pure _
  | .image spec => by
    rw [value]
    exact keepsPace_spend.bind fun _ => (e.keepsPace_image spec).bind fun _ => .pure _
  | .object fields => by
    rw [value]
    exact keepsPace_spend.bind fun _ => (keepsPace_members before base fields []).bind fun _ => .pure _
  | .array minSize maxSize element => by
    rw [value]
    have hstep := keepsPace_checkpoint.bind fun _ => keepsPace_value before base element
    exact keepsPace_spend.bind fun _ => (keepsPace_length minSize maxSize).bind fun len =>
      (hstep.gather len.toNat []).bind fun _ =>
        (keepsPace_record (Report.counts_apply (.array len))).bind fun _ => .pure _

lemma keepsPace_members (before : Nat) (base : Report) : (fields : List (String × Schema)) →
    (made : List (String × Json)) → KeepsPace e.options.maxValues before base (e.members false fields made)
  | [], made => by
    rw [members]
    exact .pure _
  | (name, s) :: rest, made => by
    rw [members]
    exact (keepsPace_value before base s).bind fun v => keepsPace_members before base rest (Entries.set name v made)

end

lemma keepsPace_records (before : Nat) (base : Report) (schema : Schema) (count : Nat) :
    KeepsPace e.options.maxValues before base (e.records false schema count) := by
  rw [records]
  exact (keepsPace_checkpoint.bind fun _ => (e.keepsPace_value before base schema).bind fun _ =>
    keepsPace_finishRecord.bind fun _ => .pure _).gather count []

end Engine

end Specimen
