import Mathlib.Tactic.Lemma
import Specimen.Random.Table

/-! Words that make a draw come out as one likes. -/

namespace Specimen

namespace WordCycle

def midway (before after : List UInt64) : WordCycle := ⟨(before ++ after).toArray, before.length⟩

lemma next_midway (before after : List UInt64) (x : UInt64) :
    next (midway before (x :: after)) = (x, midway (before ++ [x]) after) := by
  have hmod : before.length % (before ++ x :: after).length = before.length := Nat.mod_eq_of_lt (by simp)
  have hsize : (before ++ x :: after).toArray.size = (before ++ x :: after).length := rfl
  simp only [midway, next, hsize, hmod]
  simp

end WordCycle

open WordCycle (midway next_midway)

variable {α β : Type} {m : StateM WordCycle α} {f : α → StateM WordCycle β} {a : α} {b : β}

/-- With these words coming next, just they are drawn, and the value is what comes of them. -/
def Takes (m : StateM WordCycle α) (ws : List UInt64) (a : α) : Prop :=
  ∀ before after, m (midway before (ws ++ after)) = (a, midway (before ++ ws) after)

lemma Takes.pure (a : α) : Takes (Pure.pure a) [] a := fun before after => by
  rw [List.append_nil]
  rfl

lemma Takes.bind {ws vs : List UInt64} (hm : Takes m ws a) (hf : Takes (f a) vs b) :
    Takes (m >>= f) (ws ++ vs) b := fun before after => by
  change (fun p => f p.1 p.2) (m (midway before (ws ++ vs ++ after))) = _
  rw [List.append_assoc, hm, ← List.append_assoc]
  exact hf (before ++ ws) after

def Attains (m : StateM WordCycle α) (a : α) : Prop := ∃ ws, Takes m ws a

lemma Attains.pure (a : α) : Attains (Pure.pure a) a := ⟨[], .pure a⟩

lemma Attains.bind (hm : Attains m a) (hf : Attains (f a) b) : Attains (m >>= f) b := by
  obtain ⟨ws, hws⟩ := hm
  obtain ⟨vs, hvs⟩ := hf
  exact ⟨ws ++ vs, hws.bind hvs⟩

lemma attains_next (x : UInt64) : Attains WordCycle.next x := ⟨[x], fun before after => next_midway before after x⟩

lemma attains_word32 (x : UInt32) : Attains (WordSource.word32 : StateM WordCycle UInt32) x := by
  have h : Attains (WordSource.word32 : StateM WordCycle UInt32) x.toUInt64.toUInt32 :=
    (attains_next x.toUInt64).bind (.pure _)
  rwa [UInt32.toUInt32_toUInt64] at h

lemma attains_word : (w : Width) → (x : Fin w.modulus) → Attains (word w : StateM WordCycle _) x
  | .half, x => by
    refine .bind (attains_word32 (UInt32.ofNat x)) ?_
    have hx : (⟨(UInt32.ofNat x).toNat, UInt32.toNat_lt _⟩ : Fin (Width.modulus .half)) = x :=
      Fin.ext (UInt32.toNat_ofNat_of_lt' x.isLt)
    rw [hx]
    exact .pure x
  | .full, x => by
    refine .bind (attains_next (UInt64.ofNat x)) ?_
    have hx : (⟨(UInt64.ofNat x).toNat, UInt64.toNat_lt _⟩ : Fin (Width.modulus .full)) = x :=
      Fin.ext (UInt64.toNat_ofNat_of_lt' x.isLt)
    rw [hx]
    exact .pure x

section below

variable (w : Width)

lemma exists_word {span : Nat} (hle : span ≤ w.modulus) (i : Fin span) :
    ∃ x < w.modulus, w.scaled span x = i ∧ w.draw span x 0 = i := by
  have hpos : 0 < span := i.pos
  let x := (w.modulus * i + (span - 1)) / span
  have hdiv : span * x + (w.modulus * i + (span - 1)) % span = w.modulus * i + (span - 1) := Nat.div_add_mod _ _
  have hmod : (w.modulus * i + (span - 1)) % span < span := Nat.mod_lt _ hpos
  have hcomm : x * span = span * x := Nat.mul_comm x span
  have hx : x * span = w.modulus * i + (x * span - w.modulus * i) := by omega
  -- the remainder is less than the span, so it carries nothing over
  have hlt : x * span - w.modulus * i < span := by omega
  have hscaled : w.scaled span x = i := by
    rw [Width.scaled, hx, Nat.mul_add_div w.modulus_pos, Nat.div_eq_of_lt (by omega), Nat.add_zero]
  have hremainder : w.remainder span x = x * span - w.modulus * i := by
    rw [Width.remainder, hx, Nat.mul_add_mod, Nat.mod_eq_of_lt (by omega)]
    omega
  refine ⟨x, ?_, hscaled, ?_⟩
  · have hi : w.modulus * (i + 1) ≤ w.modulus * span := Nat.mul_le_mul_left _ i.isLt
    rw [Nat.mul_add] at hi
    have hbound : x * span < w.modulus * span := by omega
    exact Nat.lt_of_mul_lt_mul_right hbound
  · have hzero : w.scaled span 0 = 0 := by rw [Width.scaled, Nat.zero_mul, Nat.zero_div]
    rw [Width.draw, if_neg (by rw [hzero, hremainder]; omega), hscaled]

lemma Attains.below {span : Nat} (h : 0 < span) (hle : span ≤ w.modulus) (i : Fin span) :
    Attains (below w span h) i := by
  obtain ⟨x, hx, hscaled, hdraw⟩ := exists_word w hle i
  refine .bind (attains_word w ⟨x, hx⟩) ?_
  split
  · refine .bind (attains_word w ⟨0, w.modulus_pos⟩) ?_
    have hi : (⟨w.draw span x 0, Width.draw_lt hx h⟩ : Fin span) = i := Fin.ext hdraw
    rw [hi]
    exact .pure i
  · have hi : (⟨w.scaled span x, Width.scaled_lt hx h⟩ : Fin span) = i := Fin.ext hscaled
    rw [hi]
    exact .pure i

lemma Attains.between {lo hi n : Nat} (h : lo ≤ hi) (hhi : hi < w.modulus) (hlo : lo ≤ n) (hn : n ≤ hi) :
    Attains (between w lo hi h) n := by
  refine .bind (.below w (Nat.succ_pos _) (by omega) ⟨n - lo, by omega⟩) ?_
  rw [Nat.add_sub_cancel' hlo]
  exact .pure n

end below

def Halts (m : StateM WordCycle α) : Prop := ∃ a, Attains m a

lemma Halts.pure (a : α) : Halts (Pure.pure a : StateM WordCycle α) := ⟨a, .pure a⟩

lemma Halts.bind (hm : Halts m) (hf : ∀ a, Halts (f a)) : Halts (m >>= f) := by
  obtain ⟨a, ha⟩ := hm
  obtain ⟨b, hb⟩ := hf a
  exact ⟨b, ha.bind hb⟩

lemma halts_word32 : Halts (WordSource.word32 : StateM WordCycle UInt32) := ⟨0, attains_word32 0⟩

lemma halts_below (w : Width) {span : Nat} (h : 0 < span) : Halts (below w span h : StateM WordCycle (Fin span)) := by
  have hword : Halts (word w : StateM WordCycle _) := ⟨⟨0, w.modulus_pos⟩, attains_word w _⟩
  refine hword.bind fun x => ?_
  split
  · exact hword.bind fun y => .pure _
  · exact .pure _

lemma halts_pick (t : Table α) : Halts (t.pick : StateM WordCycle α) := (halts_below _ _).bind fun _ => .pure _

lemma halts_coin : Halts (coin : StateM WordCycle Bool) := halts_word32.bind fun _ => .pure _

end Specimen
