import Mathlib.Tactic.Lemma
import Specimen.Engine.Walk

namespace Specimen.Walker

variable {σ α β : Type} {m : Walker σ α} {P : α → Prop} {Q : β → Prop}

lemma bind_eq_ok_iff {f : α → Walker σ β} {w w' : Walk σ} {b : β} :
    (m >>= f) w = .ok b w' ↔ ∃ a v, m w = .ok a v ∧ f a v = .ok b w' := by
  change EStateM.bind m f w = _ ↔ _
  rw [EStateM.bind]
  cases m w with
  | ok a v =>
    refine ⟨fun h => ⟨a, v, rfl, h⟩, ?_⟩
    rintro ⟨_, _, he, h⟩
    cases he
    exact h
  | error e v => simp

lemma pure_eq_ok_iff {a b : α} {w w' : Walk σ} : (pure a : Walker σ α) w = .ok b w' ↔ a = b ∧ w = w' := by
  change EStateM.Result.ok a w = .ok b w' ↔ _
  simp

def Yields (m : Walker σ α) (P : α → Prop) : Prop := ∀ w a w', m w = .ok a w' → P a

lemma Yields.pure {a : α} (h : P a) : Yields (Pure.pure a : Walker σ α) P := by
  intro w b w' he
  obtain ⟨rfl, -⟩ := pure_eq_ok_iff.1 he
  exact h

lemma Yields.bind {f : α → Walker σ β} (hm : Yields m P) (hf : ∀ a, P a → Yields (f a) Q) :
    Yields (m >>= f) Q := by
  intro w b w' he
  obtain ⟨a, v, ha, hb⟩ := bind_eq_ok_iff.1 he
  exact hf a (hm w a v ha) v b w' hb

lemma Yields.any : Yields m fun _ => True := fun _ _ _ _ => trivial

lemma Yields.after {f : α → Walker σ β} (hf : ∀ a, Yields (f a) Q) : Yields (m >>= f) Q :=
  Yields.any.bind fun a _ => hf a

lemma yields_draw {d : StateM σ α} (h : ∀ s, P (d s).1) : Yields (draw d) P := by
  intro w a w' he
  rw [draw] at he
  cases he
  exact h w.source

lemma yields_call (g : Generator σ) : Yields (call g) fun t => ∃ s, t = (g.generate s).1.text := by
  intro w t w' he
  rw [call] at he
  cases he
  exact ⟨w.source, rfl⟩

inductive Steps (step : Walker σ α) : Walk σ → List α → Walk σ → Prop
  | nil (w) : Steps step w [] w
  | cons {w v u a l} : step w = .ok a v → Steps step v l u → Steps step w (a :: l) u

lemma gather_eq_ok {step : Walker σ α} {n : Nat} {before l : List α} {w w' : Walk σ}
    (h : gather step n before w = .ok l w') :
    ∃ new, l = before.reverse ++ new ∧ new.length = n ∧ Steps step w new w' := by
  induction n generalizing before w with
  | zero =>
    obtain ⟨rfl, rfl⟩ := pure_eq_ok_iff.1 h
    exact ⟨[], by simp, rfl, .nil w⟩
  | succ n ih =>
    obtain ⟨a, v, ha, hv⟩ := bind_eq_ok_iff.1 h
    obtain ⟨new, rfl, hlen, hs⟩ := ih hv
    exact ⟨a :: new, by simp, by simp [hlen], .cons ha hs⟩

lemma Steps.forall_mem {step : Walker σ α} {w w' : Walk σ} {l : List α} (hs : Steps step w l w')
    (h : Yields step P) : ∀ a ∈ l, P a := by
  induction hs with
  | nil => simp
  | cons ha _ ih => exact List.forall_mem_cons.2 ⟨h _ _ _ ha, ih⟩

lemma yields_gather {step : Walker σ α} (h : Yields step P) (n : Nat) :
    Yields (gather step n []) fun l => l.length = n ∧ ∀ a ∈ l, P a := by
  intro w l w' he
  obtain ⟨new, rfl, hlen, hs⟩ := gather_eq_ok he
  exact ⟨by simpa using hlen, by simpa using hs.forall_mem h⟩

end Specimen.Walker
