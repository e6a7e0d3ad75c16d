import Specimen.Proofs.Schema.Everywhere
import Specimen.Proofs.Schema.Positions

namespace Specimen.Schema

lemma depthFields_le_iff {fields : List (String × Schema)} {n : Nat} :
    depthFields fields ≤ n ↔ ∀ e ∈ fields, e.2.depth ≤ n := by
  induction fields with
  | nil => simp [depthFields]
  | cons e r ih => rw [depthFields, Nat.max_le, ih, List.forall_mem_cons]

variable {p : Place} {members : List (String × Json)} {a b : UInt64} {element : Json}

lemma sound_leaf_iff {v : Json} (hm : ∀ members, v ≠ .obj members) :
    (Position.mk p v).Sound ↔ p.depth ≤ maxDepth := by
  rw [Position.sound_iff, Position.TooDeep, Nat.not_lt]
  refine and_iff_left fun a b => ?_
  rintro ⟨members, element, hv, -⟩
  exact hm members hv

lemma sound_array_iff (h : DescribesArray members a b element) :
    (Position.mk p (.obj members)).Sound ↔ p.depth ≤ maxDepth ∧ a ≤ b := by
  rw [Position.sound_iff, Position.TooDeep, Nat.not_lt]
  refine and_congr_right fun _ => ⟨fun hi => ?_, fun hle a' b' => ?_⟩
  · exact UInt64.not_lt.1 fun hlt => hi a b ⟨members, element, rfl, h, hlt⟩
  · rintro ⟨_, element', hv, h', hlt⟩
    cases hv
    obtain ⟨rfl, rfl, -⟩ := h.unique h'
    exact UInt64.not_lt.2 hle hlt

lemma sound_object_iff (h : ¬ IsArray members) : (Position.mk p (.obj members)).Sound ↔ p.depth ≤ maxDepth := by
  rw [Position.sound_iff, Position.TooDeep, Nat.not_lt]
  refine and_iff_left fun a b => ?_
  rintro ⟨_, element, hv, ha, -⟩
  cases hv
  exact h ⟨a, b, element, ha⟩

lemma visited_leaf {v : Json} (hm : ∀ members, v ≠ .obj members) : visited p v = [⟨p, v⟩] := by
  cases v with
  | obj members => exact absurd rfl (hm members)
  | null | bool | num | str | arr => rfl

lemma visitedElement_eq {members : List (String × Json)} (h : Entries.find? "schema" members = some element) :
    visitedElement p members = visited p element := by
  induction members with
  | nil => cases h
  | cons e r ih =>
    obtain ⟨name, v⟩ := e
    rw [Entries.find?_cons] at h
    rw [visitedElement]
    by_cases hname : name = "schema"
    · rw [if_pos hname.symm, Option.some.injEq] at h
      rw [if_pos hname, ← h]
    · rw [if_neg (Ne.symm hname)] at h
      rw [if_neg hname, ih h]

mutual

lemma forall_sound_iff (p : Place) : (s : Schema) → {v : Json} → Mirrors v s →
    ((∀ q ∈ visited p v, q.Sound) ↔ p.depth + s.depth ≤ maxDepth + 1 ∧ s.Sized)
  | .scalar tag, v, h => by
    have hm : ∀ members, v ≠ .obj members := by
      cases h with
      | text => simp
      | leaf _ hm => exact hm
    have hsized : Sized (.scalar tag) := trivial
    rw [visited_leaf hm, List.forall_mem_singleton, sound_leaf_iff hm, and_iff_left hsized, depth]
    omega
  | .image spec, v, h => by
    cases h with
    | @image members _ hi =>
      have ha : ¬ IsArray members := fun ⟨_, _, _, ha⟩ => ha.not_isImage hi.type
      have hsized : Sized (.image spec) := trivial
      rw [visited, if_neg ha, if_pos hi.type, List.forall_mem_singleton, sound_object_iff ha, and_iff_left hsized,
        depth]
      omega
  | .array minSize maxSize t, v, h => by
    cases h with
    | @array members _ _ element _ ha ht =>
      have hsized : Sized (.array minSize maxSize t) ↔ minSize ≤ maxSize ∧ t.Sized := Iff.rfl
      have hdepth : p.element.depth = p.depth + 1 := rfl
      rw [visited, if_pos ⟨_, _, _, ha⟩, List.forall_mem_cons, sound_array_iff ha, visitedElement_eq ha.schema,
        forall_sound_iff p.element t ht, hsized, hdepth, depth]
      constructor
      · rintro ⟨⟨-, hle⟩, hdeep, ht⟩
        exact ⟨by omega, hle, ht⟩
      · rintro ⟨hdeep, hle, ht⟩
        exact ⟨⟨by omega, hle⟩, by omega, ht⟩
  | .object fields, v, h => by
    cases h with
    | @record members _ ha hi hf =>
      have hsized : Sized (.object fields) ↔ EverywhereIn SizesOrdered fields := and_iff_right trivial
      rw [visited, if_neg ha, if_neg hi, List.forall_mem_cons, sound_object_iff ha, forall_soundIn_iff p fields hf,
        hsized, depth, ← and_assoc]
      refine and_congr_left fun _ => ?_
      constructor
      · rintro ⟨hp, hfields⟩
        have : depthFields fields ≤ maxDepth - p.depth := depthFields_le_iff.2 fun e he => by
          have := hfields e he
          omega
        omega
      · intro hle
        refine ⟨by omega, fun e he => ?_⟩
        have := depthFields_le_iff.1 (Nat.le_refl (depthFields fields)) e he
        omega

lemma forall_soundIn_iff (p : Place) : (fields : List (String × Schema)) → {members : List (String × Json)} →
    MirrorsEach members fields → ((∀ q ∈ visitedMembers p members, q.Sound) ↔
      (∀ e ∈ fields, p.depth + 1 + e.2.depth ≤ maxDepth + 1) ∧ EverywhereIn SizesOrdered fields)
  | [], members, h => by
    cases h with
    | nil => simp [visitedMembers, EverywhereIn]
  | (name, s) :: fields, members, h => by
    cases h with
    | @cons _ v _ members _ hv hr =>
      have hdepth : (p.field name).depth = p.depth + 1 := rfl
      have hsized : EverywhereIn SizesOrdered ((name, s) :: fields) ↔ s.Sized ∧ EverywhereIn SizesOrdered fields :=
        Iff.rfl
      rw [visitedMembers, List.forall_mem_append, forall_sound_iff (p.field name) s hv,
        forall_soundIn_iff p fields hr, hdepth, List.forall_mem_cons, hsized]
      exact and_and_and_comm

end

lemma ofJson_eq_ok_iff {v : Json} {s : Schema} : ofJson v = .ok s ↔ Mirrors v s ∧ s.depth ≤ maxDepth ∧ s.Sized := by
  have hroot : Place.root.Agrees := ⟨rfl, rfl⟩
  rw [show ofJson v = normalize Place.root.path v from rfl, (reads_normalize hroot v).ok, and_comm]
  refine and_congr_right fun h => ?_
  have hone : Place.root.depth = 1 := rfl
  rw [forall_sound_iff .root s h, hone]
  refine and_congr_left fun _ => ?_
  omega

lemma sized_of_ofJson {v : Json} {s : Schema} (h : ofJson v = .ok s) : s.Sized := (ofJson_eq_ok_iff.1 h).2.2

end Specimen.Schema
