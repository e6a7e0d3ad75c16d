import Specimen.Proofs.Engine.Conformance
import Specimen.Proofs.Json.Records
import Specimen.Request

universe u

namespace Specimen

lemma map_eq_ok_iff {ε α β : Type u} {f : α → β} {x : Except ε α} {b : β} :
    x.map f = .ok b ↔ ∃ a, x = .ok a ∧ f a = b := by
  cases x <;> simp [Except.map]

namespace Schema

mutual

def nesting : Schema → Nat
  | .scalar _ | .image _ => 0
  | .object fields => 1 + nestingFields fields
  | .array _ _ element => 1 + nesting element

def nestingFields : List (String × Schema) → Nat
  | [] => 0
  | (_, s) :: r => max (nesting s) (nestingFields r)

end

lemma nesting_le_nestingFields {fields : List (String × Schema)} {name : String} {s : Schema}
    (h : (name, s) ∈ fields) : s.nesting ≤ nestingFields fields := by
  induction fields with
  | nil => cases h
  | cons f r ih =>
    rw [nestingFields]
    cases h with
    | head => exact Nat.le_max_left _ _
    | tail _ h => exact Nat.le_trans (ih h) (Nat.le_max_right _ _)

mutual

lemma nesting_le_depth : (s : Schema) → s.nesting ≤ s.depth
  | .scalar _ | .image _ => Nat.zero_le 1
  | .object fields => Nat.add_le_add_left (nestingFields_le_depthFields fields) 1
  | .array _ _ element => Nat.add_le_add_left (nesting_le_depth element) 1

lemma nestingFields_le_depthFields : (l : List (String × Schema)) → nestingFields l ≤ depthFields l
  | [] => Nat.le_refl 0
  | (_, s) :: r => by
    have h := nesting_le_depth s
    have hr := nestingFields_le_depthFields r
    rw [nestingFields, depthFields]
    omega

end

mutual

lemma nesting_normalize {path : Path} :
    {v : Json} → {s : Schema} → normalize path v = .ok s → s.nesting ≤ v.nesting
  | .obj members, s, h => by
    rw [normalize] at h
    split at h
    · cases h
    · split at h
      · split at h
        · cases h
        · -- the element stands inside the object that describes the array
          obtain ⟨element, he, rfl⟩ := map_eq_ok_iff.1 h
          exact Nat.add_le_add_left (nesting_normalizeElement he) 1
      · cases h
        exact Nat.zero_le _
      · obtain ⟨fields, hf, rfl⟩ := map_eq_ok_iff.1 h
        exact Nat.add_le_add_left (nesting_normalizeFields hf) 1
  | .str _, s, h | .null, s, h | .bool _, s, h | .num _, s, h | .arr _, s, h => by
    unfold normalize at h
    split at h
    · cases h
    · cases h
      exact Nat.zero_le _

lemma nesting_normalizeFields {path : Path} : {l : List (String × Json)} → {fields : List (String × Schema)} →
    normalizeFields path l = .ok fields → nestingFields fields ≤ Json.nestingMembers l
  | [], _, h => by
    cases h
    exact Nat.zero_le _
  | (name, v) :: rest, _, h => by
    rw [normalizeFields] at h
    split at h
    · cases h
    · rename_i s hs
      obtain ⟨fields, hf, rfl⟩ := map_eq_ok_iff.1 h
      have hv := nesting_normalize hs
      have hr := nesting_normalizeFields hf
      rw [nestingFields, Json.nestingMembers]
      omega

lemma nesting_normalizeElement {path : Path} : {l : List (String × Json)} → {s : Schema} →
    normalizeElement path l = .ok s → s.nesting ≤ Json.nestingMembers l
  | [], _, h => by
    cases h
    exact Nat.zero_le _
  | (name, v) :: rest, _, h => by
    rw [normalizeElement] at h
    split at h
    · exact Nat.le_trans (nesting_normalize h) (Nat.le_max_left _ _)
    · exact Nat.le_trans (nesting_normalizeElement h) (Nat.le_max_right _ _)

end

end Schema

lemma Request.ofJson_of_validate {maxCount : UInt64} {r : Request} {valid : ValidRequest}
    (h : r.validate maxCount = .ok valid) : ∃ v ∈ r.schema, Schema.ofJson v = .ok valid.schema := by
  rw [validate] at h
  split at h
  · rename_i v _ hv _
    refine ⟨v, (Option.filter_eq_some_iff.1 hv).1, ?_⟩
    split at h
    · cases h
    · split at h
      · cases h
      · split at h
        · cases h
        · rename_i hs
          cases h
          exact hs
  · cases h

lemma Request.nesting_of_validate {maxCount : UInt64} {r : Request} {valid : ValidRequest}
    (h : r.validate maxCount = .ok valid) : ∃ v ∈ r.schema, valid.schema.nesting ≤ v.nesting := by
  obtain ⟨v, hv, hs⟩ := ofJson_of_validate h
  exact ⟨v, hv, Schema.nesting_normalize hs⟩

namespace Options

variable {o : Options}

mutual

lemma depth_of_checkLimits {path : Schema.Path} : {s : Schema} → o.checkLimits path s = .ok () →
    path.length + s.depth ≤ o.maxDepth.toNat
  | .scalar _, h | .image _, h => by
    rw [checkLimits] at h
    split at h
    · cases h
    · rename_i hl
      exact Nat.le_of_not_lt hl
  | .object fields, h => by
    rw [checkLimits] at h
    split at h
    · cases h
    · rename_i hl
      have hf := depth_of_checkFields h (Nat.le_of_not_lt hl)
      rw [Schema.depth]
      rw [Schema.Path.level] at hf
      omega
  | .array _ _ element, h => by
    rw [checkLimits] at h
    split at h
    · cases h
    · split at h
      · cases h
      · have he := depth_of_checkLimits h
        rw [List.length_cons] at he
        rw [Schema.depth]
        omega

lemma depth_of_checkFields {path : Schema.Path} :
    {l : List (String × Schema)} → o.checkFields path l = .ok () →
    path.level ≤ o.maxDepth.toNat → path.level + Schema.depthFields l ≤ o.maxDepth.toNat
  | [], _, hl => hl
  | (name, s) :: rest, h, hl => by
    rw [checkFields] at h
    split at h
    · cases h
    · rename_i hs
      have hd := depth_of_checkLimits hs
      have hr := depth_of_checkFields h hl
      rw [List.length_cons] at hd
      rw [Schema.Path.level] at hr ⊢
      rw [Schema.depthFields]
      omega

end

end Options

namespace Conforms

open Json

variable {σ : Type} {e : Engine σ}

lemma exists_field {fields : List (String × Schema)} {members : List (String × Json)}
    {name : String} {v : Json}
    (hkeys : Entries.keys members = (Entries.keys fields).eraseDups) (h : (name, v) ∈ members) :
    Entries.find? name members = some v ∧
      ∃ s, Entries.find? name fields.reverse = some s ∧ (name, s) ∈ fields := by
  have hnodup : (Entries.keys members).Nodup := hkeys ▸ Entries.nodup_eraseDups _
  have hname : name ∈ Entries.keys fields := by
    rw [← List.mem_eraseDups, ← hkeys]
    exact List.mem_map_of_mem h
  have hrev : Entries.find? name fields.reverse ≠ none := by
    rw [Ne, Entries.find?_eq_none_iff]
    simpa [Entries.keys] using hname
  obtain ⟨s, hs⟩ := Option.ne_none_iff_exists'.1 hrev
  exact ⟨Entries.find?_of_mem hnodup h, s, hs, List.mem_reverse.1 (Entries.mem_of_find? hs)⟩

lemma nesting_le {s : Schema} {v : Json} (h : Conforms e s v) : v.nesting ≤ s.nesting := by
  induction h with
  | scalar | image => exact Nat.zero_le _
  | array _ _ _ ih =>
    rw [Schema.nesting, Nat.add_comm, nesting_arr_le_iff]
    exact ih
  | @object fields members hkeys _ ih =>
    rw [Schema.nesting, Nat.add_comm, nesting_obj_le_iff]
    rintro ⟨name, v⟩ hm
    obtain ⟨hv, s, hs, hmem⟩ := exists_field hkeys hm
    exact Nat.le_trans (ih name v s hv hs) (Schema.nesting_le_nestingFields hmem)

lemma plain {s : Schema} {v : Json} (h : Conforms e s v) : Plain v := by
  induction h with
  | scalar | image => exact .str _
  | array _ _ _ ih => exact .arr ih
  | @object fields members hkeys _ ih =>
    refine .obj (hkeys ▸ Entries.nodup_eraseDups _) ?_
    rintro ⟨name, v⟩ hm
    obtain ⟨hv, s, hs, -⟩ := exists_field hkeys hm
    exact ih name v s hv hs

end Conforms

namespace Engine

variable {σ : Type} [WordSource σ] (e : Engine σ)

theorem plain_of_run (schema : Schema) (count : UInt64) (token : Option Bool) (runId : String) (source : σ)
    {records : Dataset} (h : (e.run schema count token runId source).outcome = .ok records) :
    ∀ v ∈ records, v.Plain ∧ v.nesting ≤ schema.nesting ∧ v.nesting ≤ e.options.maxDepth.toNat := by
  intro v hv
  obtain ⟨hl, w, w', hr⟩ := e.records_of_run h
  have hc := (e.yields_records token.isSome schema count.toNat w records w' hr).2 v hv
  have hd : schema.depth ≤ e.options.maxDepth.toNat := by simpa using Options.depth_of_checkLimits hl
  exact ⟨hc.plain, hc.nesting_le, Nat.le_trans hc.nesting_le (Nat.le_trans schema.nesting_le_depth hd)⟩

end Engine

end Specimen
