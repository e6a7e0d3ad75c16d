import Specimen.Proofs.Engine.Guarded
import Specimen.Proofs.Engine.Results

namespace Specimen

inductive GenerationError.IsBreach : GenerationError → Prop
  | depthExceeded (limit) : IsBreach (.depthExceeded limit)
  | arrayTooLarge (path maxSize limit) : IsBreach (.arrayTooLarge path maxSize limit)

def GenerationError.IsMishap (e : GenerationError) : Prop := ¬ e.IsBreach

namespace Walker

variable {σ α β : Type} {m : Walker σ α} {P Q R : Walk σ → Prop} {E : GenerationError → Prop}

lemma bind_eq_error_iff {f : α → Walker σ β} {w w' : Walk σ} {fault : GenerationError} :
    (m >>= f) w = .error fault w' ↔ m w = .error fault w' ∨ ∃ a v, m w = .ok a v ∧ f a v = .error fault w' := by
  change EStateM.bind m f w = _ ↔ _
  rw [EStateM.bind]
  cases m w with
  | ok a v => simp
  | error e v => simp

/-- From walks with `P`, the walker leads to walks with `Q` if it ends well, and to an error with `E` if not. -/
structure Ensures (P : Walk σ → Prop) (m : Walker σ α) (Q : Walk σ → Prop) (E : GenerationError → Prop) : Prop where
  ok : ∀ w a w', P w → m w = .ok a w' → Q w'
  error : ∀ w fault w', P w → m w = .error fault w' → E fault

namespace Ensures

lemma pure (a : α) : Ensures P (Pure.pure a) P E where
  ok w b w' hw h := by
    obtain ⟨-, rfl⟩ := pure_eq_ok_iff.1 h
    exact hw
  error w fault w' _ h := by cases h

lemma bind {f : α → Walker σ β} (hm : Ensures P m Q E) (hf : ∀ a, Ensures Q (f a) R E) : Ensures P (m >>= f) R E where
  ok w b w' hw h := by
    obtain ⟨a, v, ha, hb⟩ := bind_eq_ok_iff.1 h
    exact (hf a).ok v b w' (hm.ok w a v hw ha) hb
  error w fault w' hw h := by
    rcases bind_eq_error_iff.1 h with h | ⟨a, v, ha, h⟩
    · exact hm.error w fault w' hw h
    · exact (hf a).error v fault w' (hm.ok w a v hw ha) h

lemma mono (hm : Ensures P m Q E) (h : ∀ w, Q w → R w) : Ensures P m R E where
  ok w a w' hw ha := h w' (hm.ok w a w' hw ha)
  error := hm.error

lemma gather {P : Nat → Walk σ → Prop} (h : ∀ i, Ensures (P i) m (P (i + 1)) E) (n i : Nat) (before : List α) :
    Ensures (P i) (Walker.gather m n before) (P (i + n)) E := by
  induction n generalizing i before with
  | zero => exact .pure _
  | succ n ih =>
    refine (h i).bind fun a => ?_
    rw [← Nat.add_assoc, Nat.add_right_comm]
    exact ih (i + 1) (a :: before)

lemma onward (h : ∀ w, P w → ∃ a w', m w = .ok a w' ∧ Q w') : Ensures P m Q E where
  ok w a w' hw ha := by
    obtain ⟨b, v, hb, hv⟩ := h w hw
    cases hb.symm.trans ha
    exact hv
  error w fault w' hw he := by
    obtain ⟨b, v, hb, -⟩ := h w hw
    cases hb.symm.trans he

end Ensures

section

variable {limit : UInt64} {placed made : Nat}

lemma ensures_draw (d : StateM σ α) : Ensures (Covered limit placed made) (draw d) (Covered limit placed made) E :=
  .onward fun _ hw => ⟨_, _, rfl, hw.change _ _⟩

lemma ensures_call (g : Generator σ) : Ensures (Covered limit placed made) (call g) (Covered limit placed made) E :=
  .onward fun _ hw => ⟨_, _, rfl, hw.change _ _⟩

lemma ensures_record {f : Report → Report} (hf : ∀ r t, ((f r).tally t).toNat ≤ (r.tally t).toNat + 1)
    (helements : ∀ r, (f r).arrayElements = r.arrayElements) :
    Ensures (Covered limit placed 1) (record f) (Covered (σ := σ) limit placed 0) E :=
  .onward fun _ hw => ⟨_, _, rfl, hw.record (hf _) (helements _)⟩

lemma ensures_recordArray (len : UInt64) : Ensures (Covered limit (placed + len.toNat) 0)
    (record (Report.recordArray len)) (Covered (σ := σ) limit placed 0) E :=
  .onward fun _ hw => ⟨_, _, rfl, hw.recordArray⟩

lemma ensures_finishRecord : Ensures (Covered limit 1 0) finishRecord (Covered (σ := σ) limit 0 0) E :=
  .onward fun _ hw => ⟨_, _, rfl, hw.finishRecord⟩

open GenerationError (IsMishap)

lemma ensures_spend :
    Ensures (Covered limit placed 0) (spend limit) (Covered (σ := σ) limit (placed + 1) 1) IsMishap where
  ok w a w' hw h := by
    rw [spend] at h
    split at h
    · cases h
    · rename_i hlt
      cases h
      exact hw.spend (Nat.not_le.1 hlt)
  error w fault w' _ h := by
    rw [spend] at h
    split at h <;> cases h
    intro hb
    cases hb

lemma ensures_spend_untallied :
    Ensures (Covered limit placed 0) (spend limit) (Covered (σ := σ) limit (placed + 1) 0) IsMishap :=
  ensures_spend.mono fun _ hw => hw.mono (Nat.le_refl _) (Nat.zero_le _)

lemma ensures_checkpoint (watched : Bool) : Ensures P (checkpoint watched) P IsMishap where
  ok w a w' hw h := by
    rw [checkpoint] at h
    split at h <;> cases h
    exact hw
  error w fault w' _ h := by
    rw [checkpoint] at h
    split at h <;> cases h
    intro hb
    cases hb

end

end Walker

namespace Engine

open Walker

open GenerationError (IsMishap)

variable {σ : Type} (e : Engine σ) (watched : Bool) {placed made : Nat} {limit : UInt64}

lemma ensures_scalar (tag : String) :
    Ensures (Covered limit placed 1) (e.scalar tag) (Covered limit placed 0) IsMishap := by
  rw [scalar]
  split
  · exact (ensures_record (fun r t => r.toNat_tally_apply_le (.usage _) t) fun _ => rfl).bind fun _ => ensures_call _
  · exact (ensures_record (fun r t => r.toNat_tally_apply_le (.fallback _) t) fun _ => rfl).bind fun _ => ensures_call _

variable [WordSource σ]

lemma ensures_image (spec : ImageSpec) :
    Ensures (Covered limit placed 1) (e.image spec) (Covered limit placed 0) IsMishap :=
  (ensures_record (fun r t => r.toNat_tally_apply_le .image t) fun _ => rfl).bind fun _ => ensures_draw _

lemma ensures_length (minSize maxSize : UInt64) : Ensures (Covered limit placed made)
    (length minSize maxSize : Walker σ UInt64) (Covered limit placed made) IsMishap where
  ok w len w' hw h := by
    rw [length] at h
    split at h
    · cases h
      exact hw.change _ _
    · cases h
  error w fault w' _ h := by
    rw [length] at h
    split at h <;> cases h
    intro hb
    cases hb

mutual

lemma ensures_value (placed : Nat) : (s : Schema) → Ensures (Covered e.options.maxValues placed 0) (e.value watched s)
    (Covered e.options.maxValues (placed + 1) 0) IsMishap
  | .scalar tag => by
    rw [value]
    exact ensures_spend.bind fun _ => (e.ensures_scalar tag).bind fun _ => .pure _
  | .image spec => by
    rw [value]
    exact ensures_spend.bind fun _ => (e.ensures_image spec).bind fun _ => .pure _
  | .object fields => by
    rw [value]
    exact ensures_spend_untallied.bind fun _ => (ensures_members (placed + 1) fields []).bind fun _ => .pure _
  | .array minSize maxSize element => by
    rw [value]
    -- each element places one more, which the tally of the elements takes at the end
    have hstep (i : Nat) := (ensures_checkpoint watched).bind fun _ => ensures_value i element
    exact ensures_spend_untallied.bind fun _ => (ensures_length minSize maxSize).bind fun len =>
      (Ensures.gather hstep len.toNat (placed + 1) []).bind fun _ => (ensures_recordArray len).bind fun _ => .pure _

lemma ensures_members (placed : Nat) : (fields : List (String × Schema)) → (before : List (String × Json)) →
    Ensures (Covered e.options.maxValues placed 0) (e.members watched fields before)
      (Covered e.options.maxValues placed 0) IsMishap
  | [], before => by
    rw [members]
    exact .pure _
  | (name, s) :: rest, before => by
    rw [members]
    have hvalue := (ensures_value placed s).mono fun _ hw => hw.mono (Nat.le_succ placed) (Nat.le_refl 0)
    exact hvalue.bind fun v => ensures_members placed rest (Entries.set name v before)

end

lemma ensures_records (schema : Schema) (count : Nat) : Ensures (Covered e.options.maxValues 0 0)
    (e.records watched schema count) (Covered e.options.maxValues 0 0) IsMishap := by
  rw [records]
  -- each record places one value, which the count of the records takes
  exact .gather (P := fun _ => Covered e.options.maxValues 0 0) (fun _ => (ensures_checkpoint watched).bind fun _ =>
    (e.ensures_value watched 0 schema).bind fun v => ensures_finishRecord.bind fun _ => .pure v) count 0 []

end Engine

end Specimen
