import Mathlib.Tactic.Lemma
import Specimen.Entries

universe u v

namespace Specimen.Entries

section

variable {κ : Type v} [DecidableEq κ]

lemma eraseDups_concat (l : List κ) (k : κ) :
    (l ++ [k]).eraseDups = if k ∈ l then l.eraseDups else l.eraseDups ++ [k] := by
  rw [List.eraseDups_append]
  split
  · rename_i h
    simp [List.removeAll, h]
  · rename_i h
    simp [List.removeAll, h, List.eraseDups_cons]

lemma nodup_eraseDups (l : List κ) : l.eraseDups.Nodup := by
  induction hn : l.length using Nat.strongRecOn generalizing l with
  | ind n ih =>
    cases l with
    | nil => simp
    | cons a r =>
      have hlen : (r.filter fun b => !b == a).length < n := by
        rw [← hn]
        exact Nat.lt_succ_of_le (List.length_filter_le _ r)
      rw [List.eraseDups_cons]
      refine List.nodup_cons.2 ⟨?_, ih _ hlen _ rfl⟩
      simp [List.mem_eraseDups]

end

variable {κ : Type v} {α : Type u}

@[simp] lemma keys_append (l r : List (κ × α)) : keys (l ++ r) = keys l ++ keys r := List.map_append

lemma notMem_keys_of_nodup {k : κ} {v : α} {l r : List (κ × α)}
    (h : (keys (l ++ (k, v) :: r)).Nodup) : k ∉ keys l := by
  rw [keys_append] at h
  exact fun hmem => (List.nodup_append.1 h).2.2 k hmem k List.mem_cons_self rfl

variable [DecidableEq κ]

@[simp] lemma find?_nil (k : κ) : find? k ([] : List (κ × α)) = none := rfl

@[simp] lemma find?_cons (k : κ) (e : κ × α) (l : List (κ × α)) :
    find? k (e :: l) = if k = e.1 then some e.2 else find? k l := rfl

lemma mem_of_find? {k : κ} {v : α} {l : List (κ × α)} (h : find? k l = some v) : (k, v) ∈ l := by
  induction l with
  | nil => simp at h
  | cons e r ih =>
    rw [find?_cons] at h
    split at h
    · rename_i hk
      cases h
      rw [hk]
      exact List.mem_cons_self
    · exact List.mem_cons_of_mem _ (ih h)

lemma find?_of_mem {k : κ} {v : α} {l : List (κ × α)} (hn : (keys l).Nodup) (h : (k, v) ∈ l) :
    find? k l = some v := by
  induction l with
  | nil => simp at h
  | cons e r ih =>
    obtain ⟨hfresh, hr⟩ := List.nodup_cons.1 hn
    rw [find?_cons]
    rcases List.mem_cons.1 h with rfl | h
    · simp
    · have hne : k ≠ e.1 := fun hk => hfresh (hk ▸ List.mem_map_of_mem h)
      rw [if_neg hne]
      exact ih hr h

lemma forall_mem_set {k : κ} {v : α} {l : List (κ × α)} {P : κ × α → Prop}
    (hl : ∀ e ∈ l, P e) (h : P (k, v)) :
    ∀ e ∈ set k v l, P e := by
  induction l with
  | nil => simpa [set] using h
  | cons e r ih =>
    obtain ⟨he, hr⟩ := List.forall_mem_cons.1 hl
    rw [set]
    split
    · exact List.forall_mem_cons.2 ⟨h, hr⟩
    · exact List.forall_mem_cons.2 ⟨he, ih hr⟩

end Specimen.Entries
