import Specimen.Proofs.Engine.Conformance
import Specimen.Proofs.Engine.Instances

namespace Specimen

namespace Json

lemma partsOfMembers_eq (l : List (String × Json)) : partsOfMembers l = l.flatMap fun m => m.2.parts := by
  induction l with
  | nil => rfl
  | cons m r ih => rw [partsOfMembers, ih, List.flatMap_cons]

end Json

def Schema.FitsIn (limit : UInt64) : Schema → Prop
  | .array _ maxSize _ => maxSize ≤ limit
  | _ => True

namespace Walker

variable {σ α : Type} {step : Walker σ α} {w w' : Walk σ} {l : List α} {a : α}

lemma checkpoint_eq_ok {watched : Bool} (h : checkpoint watched w = .ok () w') : w = w' := by
  rw [checkpoint] at h
  split at h <;> cases h
  rfl

lemma Steps.exists_of_mem (h : Steps step w l w') (ha : a ∈ l) :
    ∃ before u v, Steps step w before u ∧ before.length < l.length ∧ step u = .ok a v := by
  induction h with
  | nil => cases ha
  | cons hstep _ ih =>
    rcases List.mem_cons.1 ha with rfl | ha
    · exact ⟨[], _, _, .nil _, Nat.succ_pos _, hstep⟩
    · obtain ⟨before, u, v, hbefore, hlt, hu⟩ := ih ha
      exact ⟨_ :: before, u, v, .cons hstep hbefore, Nat.succ_lt_succ hlt, hu⟩

end Walker

namespace Engine

open Walker

variable {σ : Type} [WordSource σ] (e : Engine σ) (watched : Bool)

/-- While a value for the first schema is made from the first walk on, the second walk comes to the second schema,
which is a node of the first. -/
inductive Comes : Schema → Walk σ → Schema → Walk σ → Prop
  | here (s w) : Comes s w s w
  | field {before name s after w v u made t x} : spend e.options.maxValues w = .ok () v →
      e.members watched before [] v = .ok made u → Comes s u t x →
      Comes (.object (before ++ (name, s) :: after)) w t x
  | element {minSize maxSize element w v u x len items t y} : spend e.options.maxValues w = .ok () v →
      length minSize maxSize v = .ok len u → Steps (do checkpoint watched; e.value watched element) u items x →
      items.length < len.toNat → checkpoint watched x = .ok () x → Comes element x t y →
      Comes (.array minSize maxSize element) w t y

def Draws (s : Schema) (w : Walk σ) (len : UInt64) : Prop :=
  ∃ minSize maxSize element u v v', e.Comes watched s w (.array minSize maxSize element) u ∧
    spend e.options.maxValues u = .ok () v ∧ length minSize maxSize v = .ok len v'

def step (schema : Schema) : Walker σ Json := do
  checkpoint watched
  let v ← e.value watched schema
  finishRecord
  return v

def DrawsInRun (schema : Schema) (count : UInt64) (token : Option Bool) (runId : String) (source : σ)
    (len : UInt64) : Prop :=
  ∃ before w, Steps (e.step token.isSome schema) (begin source (token.getD false) (.new runId count)) before w ∧
    before.length < count.toNat ∧ checkpoint token.isSome w = .ok () w ∧ e.Draws token.isSome schema w len

def DrawsArrays (s : Schema) : Prop :=
  ∀ w v w', e.value watched s w = .ok v w' →
    ∀ items, .arr items ∈ v.parts → ∃ len, e.Draws watched s w len ∧ items.length = len.toNat

variable {e watched}

section

variable {s t : Schema} {w u : Walk σ} {len : UInt64}

lemma Comes.everywhere {P : Schema → Prop} (h : e.Comes watched s w t u) (hs : s.Everywhere P) : t.Everywhere P := by
  induction h with
  | here => exact hs
  | field _ _ _ ih => exact ih (Schema.everywhereIn_iff.1 hs.2 _ (List.mem_append_right _ List.mem_cons_self))
  | element _ _ _ _ _ _ ih => exact ih hs.2

lemma Comes.trans {r : Schema} {x : Walk σ} (h : e.Comes watched s w t u) (h' : e.Comes watched t u r x) :
    e.Comes watched s w r x := by
  induction h with
  | here => exact h'
  | field hspend hmembers _ ih => exact .field hspend hmembers (ih h')
  | element hspend hlength hitems hlt hgo _ ih => exact .element hspend hlength hitems hlt hgo (ih h')

lemma Draws.of_comes (h : e.Comes watched s w t u) (hd : e.Draws watched t u len) : e.Draws watched s w len := by
  obtain ⟨minSize, maxSize, element, x, v, v', hcomes, hspend, hlength⟩ := hd
  exact ⟨minSize, maxSize, element, x, v, v', h.trans hcomes, hspend, hlength⟩

lemma Draws.le {limit : UInt64} (h : e.Draws watched s w len) (hs : s.Everywhere (Schema.FitsIn limit)) :
    len ≤ limit := by
  obtain ⟨minSize, maxSize, element, u, v, v', hcomes, -, hlen⟩ := h
  have hfits : maxSize ≤ limit := (hcomes.everywhere hs).1
  have hle : len.toNat ≤ maxSize.toNat := (yields_length minSize maxSize _ _ _ hlen).2
  exact UInt64.le_trans (UInt64.le_iff_toNat_le.2 hle) hfits

end

section

variable {P : Json → Prop}

lemma members_append (front rest : List (String × Schema)) (made : List (String × Json)) :
    e.members watched (front ++ rest) made = e.members watched front made >>= e.members watched rest := by
  induction front generalizing made with
  | nil => simp [members]
  | cons field front ih =>
    obtain ⟨name, s⟩ := field
    simp only [List.cons_append, members, bind_assoc]
    exact bind_congr fun v => ih (Entries.set name v made)

lemma forall_mem_members {front rest : List (String × Schema)} {before made : List (String × Json)}
    {start w w' : Walk σ} (hfront : e.members watched front [] start = .ok before w)
    (hrest : e.members watched rest before w = .ok made w')
    (h : ∀ pre name s post made u v u', front ++ rest = pre ++ (name, s) :: post →
      e.members watched pre [] start = .ok made u → e.value watched s u = .ok v u' → P v)
    (hbefore : ∀ m ∈ before, P m.2) : ∀ m ∈ made, P m.2 := by
  -- the fields in front grow with the walk, as what is known of a value is said of a walk from the first field on
  induction rest generalizing front before w with
  | nil =>
    rw [members] at hrest
    obtain ⟨rfl, -⟩ := pure_eq_ok_iff.1 hrest
    exact hbefore
  | cons field rest ih =>
    obtain ⟨name, s⟩ := field
    rw [members] at hrest
    obtain ⟨v, u, hv, hrest⟩ := bind_eq_ok_iff.1 hrest
    have hnext : e.members watched (front ++ [(name, s)]) [] start = .ok (Entries.set name v before) u := by
      rw [members_append]
      refine bind_eq_ok_iff.2 ⟨before, w, hfront, ?_⟩
      rw [members]
      exact bind_eq_ok_iff.2 ⟨v, u, hv, by rw [members]; rfl⟩
    refine ih hnext hrest (fun pre name' s' post made u v u' hsplit => h pre name' s' post made u v u' ?_) ?_
    · rw [← hsplit, List.append_assoc, List.singleton_append]
    · exact Entries.forall_mem_set hbefore (h front name s rest before w v u rfl hfront hv)

end

lemma drawsArrays_of_text {s : Schema} (h : Yields (e.value watched s) fun v => ∃ text, v = .str text) :
    e.DrawsArrays watched s := by
  intro w v w' hv items hitems
  obtain ⟨text, rfl⟩ := h w v w' hv
  simp [Json.parts] at hitems

mutual

lemma drawsArrays_value (e : Engine σ) (watched : Bool) : (s : Schema) → e.DrawsArrays watched s
  | .scalar _ | .image _ => by
    apply drawsArrays_of_text
    rw [value]
    exact .after fun _ => .after fun text => .pure ⟨text, rfl⟩
  | .object fields => by
    intro w v w' h items hitems
    rw [value] at h
    obtain ⟨_, u, hspend, h⟩ := bind_eq_ok_iff.1 h
    obtain ⟨made, x, hmade, h⟩ := bind_eq_ok_iff.1 h
    obtain ⟨rfl, -⟩ := pure_eq_ok_iff.1 h
    have hstart : e.members watched [] [] u = .ok [] u := by
      rw [members]
      rfl
    have hmembers := forall_mem_members (P := fun v => ∀ items, .arr items ∈ v.parts →
      ∃ len, e.Draws watched (.object fields) w len ∧ items.length = len.toNat) hstart hmade ?_ (by simp)
    · rw [Json.parts, Json.partsOfMembers_eq] at hitems
      simp only [List.mem_append, List.mem_flatMap, List.mem_singleton, reduceCtorEq, or_false] at hitems
      obtain ⟨m, hm, hitems⟩ := hitems
      exact hmembers m hm items hitems
    · intro pre name s post before y v y' hsplit hpre hv items hitems
      rw [List.nil_append] at hsplit
      have hmem : (name, s) ∈ fields := hsplit ▸ List.mem_append_right _ List.mem_cons_self
      obtain ⟨len, hdraws, hlen⟩ := drawsArrays_fields e watched fields (name, s) hmem y v y' hv items hitems
      exact ⟨len, hsplit ▸ .of_comes (.field hspend hpre (.here s y)) hdraws, hlen⟩
  | .array minSize maxSize element => by
    intro w v w' h items hitems
    rw [value] at h
    obtain ⟨_, u, hspend, h⟩ := bind_eq_ok_iff.1 h
    obtain ⟨len, x, hlength, h⟩ := bind_eq_ok_iff.1 h
    obtain ⟨all, y, hall, h⟩ := bind_eq_ok_iff.1 h
    obtain ⟨_, _, -, h⟩ := bind_eq_ok_iff.1 h
    obtain ⟨rfl, -⟩ := pure_eq_ok_iff.1 h
    obtain ⟨_, rfl, hlen, hsteps⟩ := gather_eq_ok hall
    rw [Json.parts, Json.partsOfItems_eq] at hitems
    simp only [List.mem_append, List.mem_flatMap, List.mem_singleton, Json.arr.injEq] at hitems
    rcases hitems with ⟨item, hitem, hitems⟩ | rfl
    · obtain ⟨before, z, z', hbefore, hlt, hstep⟩ := hsteps.exists_of_mem hitem
      obtain ⟨_, z₁, hgo, hvalue⟩ := bind_eq_ok_iff.1 hstep
      obtain rfl := checkpoint_eq_ok hgo
      obtain ⟨len', hdraws, hlen'⟩ := drawsArrays_value e watched element z item z' hvalue items hitems
      exact ⟨len', .of_comes (.element hspend hlength hbefore (hlen ▸ hlt) hgo (.here element z)) hdraws, hlen'⟩
    · exact ⟨len, ⟨minSize, maxSize, element, w, u, x, .here _ w, hspend, hlength⟩, hlen⟩

lemma drawsArrays_fields (e : Engine σ) (watched : Bool) : (fields : List (String × Schema)) →
    ∀ field ∈ fields, e.DrawsArrays watched field.2
  | [] => by simp
  | (_, s) :: rest => List.forall_mem_cons.2 ⟨drawsArrays_value e watched s, drawsArrays_fields e watched rest⟩

end

lemma exists_drawsInRun {schema : Schema} {count : UInt64} {token : Option Bool} {runId : String} {source : σ}
    {records : Dataset} (h : (e.run schema count token runId source).outcome = .ok records) {v : Json}
    (hv : v ∈ records) {items : List Json} (hitems : .arr items ∈ v.parts) :
    ∃ len, e.DrawsInRun schema count token runId source len ∧ items.length = len.toNat := by
  obtain ⟨-, w, hw⟩ := e.exists_walk_of_run h
  obtain ⟨_, rfl, hlen, hsteps⟩ := gather_eq_ok hw
  obtain ⟨before, u, u', hbefore, hlt, hstep⟩ := hsteps.exists_of_mem hv
  obtain ⟨_, x, hgo, hstep⟩ := bind_eq_ok_iff.1 hstep
  obtain rfl := checkpoint_eq_ok hgo
  obtain ⟨v', x, hvalue, hstep⟩ := bind_eq_ok_iff.1 hstep
  obtain ⟨_, y, -, hstep⟩ := bind_eq_ok_iff.1 hstep
  obtain ⟨rfl, -⟩ := pure_eq_ok_iff.1 hstep
  obtain ⟨len, hdraws, hlength⟩ := drawsArrays_value e token.isSome schema u v' x hvalue items hitems
  exact ⟨len, ⟨before, u, hbefore, hlen ▸ hlt, hgo, hdraws⟩, hlength⟩

end Engine

end Specimen
