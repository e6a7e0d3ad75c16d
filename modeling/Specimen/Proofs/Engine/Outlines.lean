import Mathlib.Algebra.GroupWithZero.Nat
import Specimen.Proofs.Engine.Conformance
import Specimen.Proofs.Schema.Everywhere

/-! The outlines of records: how long each of their arrays is. -/

namespace Specimen

inductive Outline where
  | leaf
  | object (fields : List (String × Outline))
  | array (items : List Outline)

namespace Outline

mutual

def nodes : Outline → Nat
  | .leaf => 1
  | .object fields => 1 + nodesOfFields fields
  | .array items => 1 + nodesOfItems items

def nodesOfItems : List Outline → Nat
  | [] => 0
  | t :: r => nodes t + nodesOfItems r

def nodesOfFields : List (String × Outline) → Nat
  | [] => 0
  | (_, t) :: r => nodes t + nodesOfFields r

end

mutual

def shown : Outline → Outline
  | .leaf => .leaf
  | .object fields => .object (shownFields fields [])
  | .array items => .array (shownItems items)

def shownItems : List Outline → List Outline
  | [] => []
  | t :: r => shown t :: shownItems r

def shownFields : List (String × Outline) → List (String × Outline) → List (String × Outline)
  | [], before => before
  | (name, t) :: rest, before => shownFields rest (Entries.set name (shown t) before)

end

lemma nodesOfItems_eq (l : List Outline) : nodesOfItems l = (l.map nodes).sum := by
  induction l with
  | nil => rfl
  | cons t r ih => rw [nodesOfItems, ih, List.map_cons, List.sum_cons]

lemma shownItems_eq (l : List Outline) : shownItems l = l.map shown := by
  induction l with
  | nil => rfl
  | cons t r ih => rw [shownItems, ih, List.map_cons]

lemma shownFields_eq {fields before : List (String × Outline)} (hn : (Entries.keys (before ++ fields)).Nodup)
    (h : ∀ f ∈ fields, f.2.shown = f.2) : shownFields fields before = before ++ fields := by
  induction fields generalizing before with
  | nil => rw [shownFields, List.append_nil]
  | cons f rest ih =>
    obtain ⟨name, t⟩ := f
    obtain ⟨ht, hrest⟩ := List.forall_mem_cons.1 h
    rw [shownFields, Entries.set_of_notMem (Entries.notMem_keys_of_nodup hn), ih (by simpa [Entries.keys] using hn) hrest, ht]
    simp

end Outline

namespace Json

mutual

def outline : Json → Outline
  | .arr items => .array (outlinesOfItems items)
  | .obj members => .object (outlinesOfMembers members)
  | _ => .leaf

def outlinesOfItems : List Json → List Outline
  | [] => []
  | v :: r => outline v :: outlinesOfItems r

def outlinesOfMembers : List (String × Json) → List (String × Outline)
  | [] => []
  | (name, v) :: r => (name, outline v) :: outlinesOfMembers r

end

lemma outlinesOfItems_eq (l : List Json) : outlinesOfItems l = l.map outline := by
  induction l with
  | nil => rfl
  | cons v r ih => rw [outlinesOfItems, ih, List.map_cons]

lemma outlinesOfMembers_set (name : String) (v : Json) (l : List (String × Json)) :
    outlinesOfMembers (Entries.set name v l) = Entries.set name v.outline (outlinesOfMembers l) := by
  induction l with
  | nil => rfl
  | cons m r ih =>
    obtain ⟨name', v'⟩ := m
    rw [Entries.set, outlinesOfMembers, Entries.set]
    split
    · rfl
    · rw [outlinesOfMembers, ih]

end Json

namespace Schema

mutual

inductive Allows : Schema → Outline → Prop
  | scalar (tag) : Allows (.scalar tag) .leaf
  | image (spec) : Allows (.image spec) .leaf
  | object {fields outlines} : AllowsEach fields outlines → Allows (.object fields) (.object outlines)
  | array {minSize maxSize element items} : minSize.toNat ≤ items.length → items.length ≤ maxSize.toNat →
      (∀ t ∈ items, Allows element t) → Allows (.array minSize maxSize element) (.array items)

inductive AllowsEach : List (String × Schema) → List (String × Outline) → Prop
  | nil : AllowsEach [] []
  | cons (name) {s t fields outlines} : Allows s t → AllowsEach fields outlines →
      AllowsEach ((name, s) :: fields) ((name, t) :: outlines)

end

lemma AllowsEach.keys_eq : {fields : List (String × Schema)} → {outlines : List (String × Outline)} →
    AllowsEach fields outlines → Entries.keys outlines = Entries.keys fields
  | [], _, .nil => rfl
  | (name, _) :: _, _, .cons _ _ h => congrArg (name :: ·) h.keys_eq

mutual

lemma Allows.shown_eq : {s : Schema} → {t : Outline} → s.Allows t → s.Distinct → t.shown = t
  | .scalar _, _, .scalar _, _ => rfl
  | .image _, _, .image _, _ => rfl
  | .object fields, _, .object h, hd => by
    obtain ⟨hnodup, hd⟩ := hd
    have hkeys : (Entries.keys fields).Nodup := hnodup
    rw [Outline.shown, Outline.shownFields_eq (by simpa [h.keys_eq] using hkeys) (h.shown_eq hd), List.nil_append]
  | .array _ _ _, _, .array _ _ h, hd => by
    rw [Outline.shown, Outline.shownItems_eq, List.map_congr_left fun t ht => (h t ht).shown_eq hd.2, List.map_id']

lemma AllowsEach.shown_eq : {fields : List (String × Schema)} → {outlines : List (String × Outline)} →
    AllowsEach fields outlines → EverywhereIn NamesDistinct fields → ∀ f ∈ outlines, f.2.shown = f.2
  | [], _, .nil, _ => by simp
  | _ :: _, _, .cons _ h hrest, hd => List.forall_mem_cons.2 ⟨h.shown_eq hd.1, hrest.shown_eq hd.2⟩

end

end Schema

namespace Walker

variable {σ α β : Type} {m : Walker σ α} {P : α → Nat → Prop} {Q : β → Nat → Prop}

def Makes (m : Walker σ α) (P : α → Nat → Prop) : Prop :=
  ∀ w a w', m w = .ok a w' → ∃ n, P a n ∧ w'.values = w.values + n

namespace Makes

lemma pure {a : α} (h : P a 0) : Makes (Pure.pure a : Walker σ α) P := by
  intro w b w' he
  obtain ⟨rfl, rfl⟩ := pure_eq_ok_iff.1 he
  exact ⟨0, h, rfl⟩

lemma bind {f : α → Walker σ β} (hm : Makes m P) (hf : ∀ a n, P a n → Makes (f a) fun b k => Q b (n + k)) :
    Makes (m >>= f) Q := by
  intro w b w' he
  obtain ⟨a, v, ha, hb⟩ := bind_eq_ok_iff.1 he
  obtain ⟨n, hn, hv⟩ := hm w a v ha
  obtain ⟨k, hk, hw⟩ := hf a n hn v b w' hb
  exact ⟨n + k, hk, by rw [hw, hv, Nat.add_assoc]⟩

lemma after {f : α → Walker σ β} (hm : Makes m fun _ n => n = 0) (hf : ∀ a, Makes (f a) Q) : Makes (m >>= f) Q :=
  hm.bind fun a n hn => by simpa [hn] using hf a

lemma gather {step : Walker σ α} {R : α → Prop} {cost : α → Nat} (h : Makes step fun a n => R a ∧ n = cost a)
    (n : Nat) : Makes (Walker.gather step n []) fun l k => l.length = n ∧ (∀ a ∈ l, R a) ∧ k = (l.map cost).sum := by
  intro w l w' he
  obtain ⟨l, rfl, hlen, hs⟩ := gather_eq_ok he
  have hsteps : (∀ a ∈ l, R a) ∧ w'.values = w.values + (l.map cost).sum := by
    clear he hlen
    induction hs with
    | nil => simp
    | cons ha _ ih =>
      obtain ⟨k, ⟨hR, rfl⟩, hv⟩ := h _ _ _ ha
      refine ⟨List.forall_mem_cons.2 ⟨hR, ih.1⟩, ?_⟩
      rw [ih.2, hv, List.map_cons, List.sum_cons, Nat.add_assoc]
  exact ⟨_, ⟨by simpa using hlen, by simpa using hsteps.1, rfl⟩, by simpa using hsteps.2⟩

end Makes

lemma map_gather (f : α → β) (step : Walker σ α) (n : Nat) (before : List α) :
    List.map f <$> Walker.gather step n before = Walker.gather (f <$> step) n (before.map f) := by
  induction n generalizing before with
  | zero => simp [Walker.gather]
  | succ n ih => simp [Walker.gather, ih]

lemma makes_spend (limit : UInt64) : Makes (spend limit : Walker σ Unit) fun _ n => n = 1 := by
  intro w a w' he
  rw [spend] at he
  split at he <;> cases he
  exact ⟨1, rfl, rfl⟩

lemma makes_checkpoint (watched : Bool) : Makes (checkpoint watched : Walker σ Unit) fun _ n => n = 0 := by
  intro w a w' he
  rw [checkpoint] at he
  split at he <;> cases he
  exact ⟨0, rfl, rfl⟩

lemma makes_record (f : Report → Report) : Makes (record f : Walker σ Unit) fun _ n => n = 0 := by
  rintro w a w' ⟨⟩
  exact ⟨0, rfl, rfl⟩

lemma makes_draw (d : StateM σ α) : Makes (draw d) fun _ n => n = 0 := by
  rintro w a w' ⟨⟩
  exact ⟨0, rfl, rfl⟩

lemma makes_call (g : Generator σ) : Makes (call g) fun _ n => n = 0 := by
  rintro w a w' ⟨⟩
  exact ⟨0, rfl, rfl⟩

end Walker

namespace Engine

open Walker

variable {σ : Type}

lemma makes_scalar (e : Engine σ) (tag : String) : Makes (e.scalar tag) fun _ n => n = 0 := by
  rw [scalar]
  split
  · exact (makes_record _).after fun _ => makes_call _
  · exact (makes_record _).after fun _ => makes_call _

variable [WordSource σ] (e : Engine σ) (watched : Bool)

lemma makes_image (spec : ImageSpec) : Makes (e.image spec) fun _ n => n = 0 :=
  (makes_record _).after fun _ => makes_draw _

mutual

/-- As `value`, with the outline that comes about on the way. -/
def traced : Schema → Walker σ (Outline × Json)
  | .scalar tag => do
    spend e.options.maxValues
    return (.leaf, .str (← e.scalar tag))
  | .image spec => do
    spend e.options.maxValues
    return (.leaf, .str (← e.image spec))
  | .object fields => do
    spend e.options.maxValues
    let made ← tracedMembers fields []
    return (.object made.1, .obj made.2)
  | .array minSize maxSize element => do
    spend e.options.maxValues
    let len ← length minSize maxSize
    let items ← gather (do checkpoint watched; traced element) len.toNat []
    record (Report.recordArray len)
    return (.array (items.map Prod.fst), .arr (items.map Prod.snd))

def tracedMembers : List (String × Schema) → List (String × Json) →
    Walker σ (List (String × Outline) × List (String × Json))
  | [], before => pure ([], before)
  | (name, s) :: rest, before => do
    let made ← traced s
    let more ← tracedMembers rest (Entries.set name made.2 before)
    return ((name, made.1) :: more.1, more.2)

end

mutual

lemma snd_traced : (s : Schema) → Prod.snd <$> e.traced watched s = e.value watched s
  | .scalar _ | .image _ => by simp [traced, value]
  | .object fields => by simp [traced, value, ← snd_tracedMembers fields []]
  | .array minSize maxSize element => by
    have hstep : Prod.snd <$> (do checkpoint watched; e.traced watched element) =
        (do checkpoint watched; e.value watched element) := by simp [← snd_traced element]
    have hitems (n : Nat) : gather (do checkpoint watched; e.value watched element) n [] =
        List.map Prod.snd <$> gather (do checkpoint watched; e.traced watched element) n [] := by
      rw [map_gather, hstep, List.map_nil]
    simp [traced, value, hitems]

lemma snd_tracedMembers : (fields : List (String × Schema)) → (before : List (String × Json)) →
    Prod.snd <$> e.tracedMembers watched fields before = e.members watched fields before
  | [], before => by simp [tracedMembers, members]
  | (name, s) :: rest, before => by
    simp [tracedMembers, members, ← snd_traced s, ← snd_tracedMembers rest]

end

lemma makes_length (minSize maxSize : UInt64) : Makes (length minSize maxSize : Walker σ UInt64) fun len n =>
    (minSize.toNat ≤ len.toNat ∧ len.toNat ≤ maxSize.toNat) ∧ n = 0 := by
  intro w len w' he
  refine ⟨0, ⟨yields_length minSize maxSize w len w' he, rfl⟩, ?_⟩
  rw [length] at he
  split at he <;> cases he
  rfl

mutual

lemma makes_traced : (s : Schema) → Makes (e.traced watched s) fun made n =>
    (s.Allows made.1 ∧ made.2.outline = made.1.shown) ∧ n = made.1.nodes
  | .scalar tag => by
    rw [traced]
    refine (makes_spend _).bind fun _ n hn => (e.makes_scalar tag).after fun _ => .pure ⟨⟨.scalar tag, rfl⟩, ?_⟩
    rw [hn, Outline.nodes]
  | .image spec => by
    rw [traced]
    refine (makes_spend _).bind fun _ n hn => (e.makes_image spec).after fun _ => .pure ⟨⟨.image spec, rfl⟩, ?_⟩
    rw [hn, Outline.nodes]
  | .object fields => by
    rw [traced]
    refine (makes_spend _).bind fun _ n hn => (makes_tracedMembers fields []).bind fun made k hk => .pure ?_
    obtain ⟨⟨hallows, hshown⟩, hk⟩ := hk
    refine ⟨⟨.object hallows, ?_⟩, ?_⟩
    · rw [Json.outline, hshown, Outline.shown]
      rfl
    · rw [hn, hk, Outline.nodes]
      rfl
  | .array minSize maxSize element => by
    have hstep : Makes (do checkpoint watched; e.traced watched element) fun made n =>
        (element.Allows made.1 ∧ made.2.outline = made.1.shown) ∧ n = made.1.nodes :=
      (makes_checkpoint watched).after fun _ => makes_traced element
    rw [traced]
    refine (makes_spend _).bind fun _ n hn => (makes_length minSize maxSize).bind fun len j hj =>
      (hstep.gather len.toNat).bind fun items k hk => (makes_record _).after fun _ => .pure ?_
    obtain ⟨⟨hlo, hhi⟩, hj⟩ := hj
    obtain ⟨hlen, hitems, hk⟩ := hk
    refine ⟨⟨.array ?_ ?_ ?_, ?_⟩, ?_⟩
    · rwa [List.length_map, hlen]
    · rwa [List.length_map, hlen]
    · exact List.forall_mem_map.2 fun made hmade => (hitems made hmade).1
    · rw [Json.outline, Outline.shown, Json.outlinesOfItems_eq, Outline.shownItems_eq, List.map_map, List.map_map]
      exact congrArg Outline.array (List.map_congr_left fun made hmade => (hitems made hmade).2)
    · rw [hn, hj, hk, Outline.nodes, Outline.nodesOfItems_eq, List.map_map, Nat.zero_add]
      rfl

lemma makes_tracedMembers : (fields : List (String × Schema)) → (before : List (String × Json)) →
    Makes (e.tracedMembers watched fields before) fun made n =>
      (Schema.AllowsEach fields made.1 ∧
        Json.outlinesOfMembers made.2 = Outline.shownFields made.1 (Json.outlinesOfMembers before)) ∧
      n = Outline.nodesOfFields made.1
  | [], before => by
    rw [tracedMembers]
    exact .pure ⟨⟨.nil, rfl⟩, rfl⟩
  | (name, s) :: rest, before => by
    rw [tracedMembers]
    refine (makes_traced s).bind fun made n hn => (makes_tracedMembers rest _).bind fun more k hk => .pure ?_
    obtain ⟨⟨hallows, houtline⟩, hn⟩ := hn
    obtain ⟨⟨heach, hshown⟩, hk⟩ := hk
    refine ⟨⟨.cons name hallows heach, ?_⟩, ?_⟩
    · rw [hshown, Json.outlinesOfMembers_set, houtline, Outline.shownFields]
    · rw [hn, hk, Outline.nodesOfFields]
      rfl

end

end Engine

end Specimen
