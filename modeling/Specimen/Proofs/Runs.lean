import Mathlib.Tactic.Lemma

namespace Specimen

variable {ε ε' σ α β : Type} {x : ExceptT ε (StateM σ) α} {f : α → ExceptT ε (StateM σ) β} {s s' : σ}

lemma run_bind_of_ok {a : α} (h : x.run s = (.ok a, s')) : (x >>= f).run s = (f a).run s' := by
  change (ExceptT.bindCont f (x.run s).1) (x.run s).2 = _
  rw [h]
  rfl

lemma run_bind_of_error {e : ε} (h : x.run s = (.error e, s')) : (x >>= f).run s = (.error e, s') := by
  change (ExceptT.bindCont f (x.run s).1) (x.run s).2 = _
  rw [h]
  rfl

lemma run_bind_eq_ok_iff {b : β} :
    (x >>= f).run s = (.ok b, s') ↔ ∃ a t, x.run s = (.ok a, t) ∧ (f a).run t = (.ok b, s') := by
  constructor
  · intro h
    cases hx : x.run s with
    | mk r t =>
      cases r with
      | ok a => exact ⟨a, t, rfl, (run_bind_of_ok hx).symm.trans h⟩
      | error e => cases (run_bind_of_error hx).symm.trans h
  · rintro ⟨a, t, hx, hf⟩
    rw [run_bind_of_ok hx, hf]

lemma run_pure_eq_ok_iff {a b : α} :
    (pure a : ExceptT ε (StateM σ) α).run s = (.ok b, s') ↔ a = b ∧ s = s' := by
  rw [ExceptT.run_pure]
  exact ⟨fun h => by cases h; exact ⟨rfl, rfl⟩, fun ⟨ha, hs⟩ => by cases ha; cases hs; rfl⟩

lemma run_adapt (g : ε → ε') : (x.adapt g).run s = ((x.run s).1.mapError g, (x.run s).2) := rfl

lemma run_adapt_eq_ok_iff {g : ε → ε'} {a : α} : (x.adapt g).run s = (.ok a, s') ↔ x.run s = (.ok a, s') := by
  rw [run_adapt]
  rcases x.run s with ⟨e | b, t⟩
  · constructor <;> intro h <;> cases h
  · constructor <;> intro h <;> cases h <;> rfl

lemma run_tryCatch_of_ok {handler : ε → ExceptT ε (StateM σ) α} {a : α} (h : x.run s = (.ok a, s')) :
    (tryCatch x handler).run s = (.ok a, s') := by
  change (match (x.run s).1 with
    | .ok b => pure (.ok b)
    | .error e => (handler e).run : StateM σ (Except ε α)) (x.run s).2 = _
  rw [h]
  rfl

lemma run_tryCatch_of_error {handler : ε → ExceptT ε (StateM σ) α} {e : ε} (h : x.run s = (.error e, s')) :
    (tryCatch x handler).run s = (handler e).run s' := by
  change (match (x.run s).1 with
    | .ok b => pure (.ok b)
    | .error e => (handler e).run : StateM σ (Except ε α)) (x.run s).2 = _
  rw [h]

lemma run_lift (y : StateM σ α) :
    (ExceptT.lift y : ExceptT ε (StateM σ) α).run s = (.ok (y.run s).1, (y.run s).2) := rfl

/-- Where a program leads from states with `P`: if it ends well to `Q`, and if it fails to `E`. -/
structure Leads (P : σ → Prop) (x : ExceptT ε (StateM σ) α) (Q : α → σ → Prop) (E : ε → σ → Prop) : Prop where
  ok : ∀ s a s', P s → x.run s = (.ok a, s') → Q a s'
  error : ∀ s e s', P s → x.run s = (.error e, s') → E e s'

namespace Leads

variable {P P' : σ → Prop} {Q Q' : α → σ → Prop} {R : β → σ → Prop} {E E' : ε → σ → Prop}

lemma pure {a : α} (h : ∀ s, P s → Q a s) : Leads P (Pure.pure a) Q E where
  ok s b s' hs hr := by
    cases hr
    exact h s hs
  error s e s' _ hr := by cases hr

lemma throw {e : ε} (h : ∀ s, P s → E e s) : Leads P (MonadExcept.throw e) Q E where
  ok s a s' _ hr := by cases hr
  error s e' s' hs hr := by
    cases hr
    exact h s hs

lemma imp (hx : Leads P x Q E) (hP : ∀ s, P' s → P s) (hQ : ∀ a s, Q a s → Q' a s) (hE : ∀ e s, E e s → E' e s) :
    Leads P' x Q' E' where
  ok s a s' hs hr := hQ a s' (hx.ok s a s' (hP s hs) hr)
  error s e s' hs hr := hE e s' (hx.error s e s' (hP s hs) hr)

lemma bind (hx : Leads P x Q E) (hf : ∀ a, Leads (Q a) (f a) R E) : Leads P (x >>= f) R E where
  ok s b s' hs hr := by
    obtain ⟨a, t, ha, hb⟩ := run_bind_eq_ok_iff.1 hr
    exact (hf a).ok t b s' (hx.ok s a t hs ha) hb
  error s e s' hs hr := by
    cases h : x.run s with
    | mk r t =>
      cases r with
      | ok a => exact (hf a).error t e s' (hx.ok s a t hs h) ((run_bind_of_ok h).symm.trans hr)
      | error e' =>
        cases (run_bind_of_error h).symm.trans hr
        exact hx.error s e s' hs h

lemma tryCatch {handler : ε → ExceptT ε (StateM σ) α} (hx : Leads P x Q E)
    (hh : ∀ e, Leads (E e) (handler e) Q E') : Leads P (tryCatch x handler) Q E' := by
  have key (s : σ) (hs : P s) : (∃ a s', x.run s = (.ok a, s') ∧ Q a s' ∧
      (MonadExcept.tryCatch x handler).run s = (.ok a, s')) ∨
      ∃ e s', E e s' ∧ (MonadExcept.tryCatch x handler).run s = (handler e).run s' := by
    cases h : x.run s with
    | mk r t =>
      cases r with
      | ok a => exact .inl ⟨a, t, rfl, hx.ok s a t hs h, run_tryCatch_of_ok h⟩
      | error e => exact .inr ⟨e, t, hx.error s e t hs h, run_tryCatch_of_error h⟩
  constructor
  · intro s a s' hs hr
    rcases key s hs with ⟨b, t, -, hb, he⟩ | ⟨e, t, hE, he⟩
    · cases he.symm.trans hr
      exact hb
    · exact (hh e).ok t a s' hE (he.symm.trans hr)
  · intro s e s' hs hr
    rcases key s hs with ⟨b, t, -, hb, he⟩ | ⟨e', t, hE, he⟩
    · cases he.symm.trans hr
    · exact (hh e').error t e s' hE (he.symm.trans hr)

lemma adapt {g : ε → ε'} {F : ε' → σ → Prop} (hx : Leads P x Q E) (hF : ∀ e s, E e s → F (g e) s) :
    Leads P (x.adapt g) Q F where
  ok s a s' hs hr := hx.ok s a s' hs (run_adapt_eq_ok_iff.1 hr)
  error s e s' hs hr := by
    rw [run_adapt] at hr
    cases h : x.run s with
    | mk r t =>
      cases r with
      | ok a =>
        rw [h] at hr
        cases hr
      | error e' =>
        rw [h] at hr
        cases hr
        exact hF e' t (hx.error s e' t hs h)

end Leads

def Keeps {γ : Type} (view : σ → γ) (x : ExceptT ε (StateM σ) α) : Prop := ∀ s, view (x.run s).2 = view s

abbrev ReadOnly (x : ExceptT ε (StateM σ) α) : Prop := Keeps id x

namespace Keeps

variable {γ : Type} {view : σ → γ}

lemma pure (a : α) : Keeps view (Pure.pure a : ExceptT ε (StateM σ) α) := fun _ => rfl

lemma throw (e : ε) : Keeps view (MonadExcept.throw e : ExceptT ε (StateM σ) α) := fun _ => rfl

lemma bind (hx : Keeps view x) (hf : ∀ a, Keeps view (f a)) : Keeps view (x >>= f) := by
  intro s
  have hs := hx s
  cases h : x.run s with
  | mk r t =>
    rw [h] at hs
    cases r with
    | ok a => rw [run_bind_of_ok h, hf a, hs]
    | error e => rw [run_bind_of_error h, hs]

lemma adapt (hx : Keeps view x) (g : ε → ε') : Keeps view (x.adapt g) := hx

end Keeps

lemma ReadOnly.run_snd (h : ReadOnly x) (s : σ) : (x.run s).2 = s := h s

lemma ReadOnly.keeps {γ : Type} {view : σ → γ} (h : ReadOnly x) : Keeps view x :=
  fun s => congrArg view (h.run_snd s)

lemma ReadOnly.run_bind_snd (hf : ∀ a, ReadOnly (f a)) : ((x >>= f).run s).2 = (x.run s).2 := by
  cases h : x.run s with
  | mk r t =>
    cases r with
    | ok a => rw [run_bind_of_ok h, (hf a).run_snd]
    | error e => rw [run_bind_of_error h]

end Specimen
