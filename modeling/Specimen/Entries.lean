universe u v

namespace Specimen.Entries

variable {κ : Type v} {α : Type u} [DecidableEq κ]

def find? (k : κ) : List (κ × α) → Option α
  | [] => none
  | e :: r => if k = e.1 then some e.2 else find? k r

/-- A repeated key keeps the position of its first entry and takes the new value. -/
def set (k : κ) (v : α) : List (κ × α) → List (κ × α)
  | [] => [(k, v)]
  | e :: r => if k = e.1 then (k, v) :: r else e :: set k v r

def erase (k : κ) (l : List (κ × α)) : List (κ × α) := l.filter (fun e => e.1 ≠ k)

def keys (l : List (κ × α)) : List κ := l.map Prod.fst

theorem find?_set (k j : κ) (v : α) (l : List (κ × α)) :
    find? j (set k v l) = if j = k then some v else find? j l := by
  induction l with
  | nil => rfl
  | cons a r ih => grind [set, find?]

theorem find?_erase (k j : κ) (l : List (κ × α)) :
    find? j (erase k l) = if j = k then none else find? j l := by
  induction l with
  | nil => simp [erase, find?]
  | cons a r ih => grind [erase, find?]

theorem set_of_notMem {k : κ} {l : List (κ × α)} (h : k ∉ keys l) (v : α) :
    set k v l = l ++ [(k, v)] := by
  induction l with
  | nil => rfl
  | cons a r ih => grind [set, keys]

theorem keys_set (k : κ) (v : α) (l : List (κ × α)) :
    keys (set k v l) = if k ∈ keys l then keys l else keys l ++ [k] := by
  induction l with
  | nil => rfl
  | cons a r ih => grind [set, keys]

theorem nodup_keys_set (k : κ) (v : α) {l : List (κ × α)} (h : (keys l).Nodup) :
    (keys (set k v l)).Nodup := by
  rw [keys_set]
  split
  · exact h
  · rename_i hk
    refine List.nodup_append.2 ⟨h, by simp, fun a ha b hb => ?_⟩
    rw [List.mem_singleton] at hb
    exact fun e => hk (hb ▸ e ▸ ha)

theorem find?_eq_none_iff {k : κ} {l : List (κ × α)} : find? k l = none ↔ k ∉ keys l := by
  induction l with
  | nil => simp [find?, keys]
  | cons a r ih => grind [find?, keys]

theorem keys_erase (k : κ) (l : List (κ × α)) : keys (erase k l) = (keys l).filter (· ≠ k) := by
  simp [keys, erase, List.filter_map, Function.comp_def]

theorem nodup_keys_erase (k : κ) {l : List (κ × α)} (h : (keys l).Nodup) : (keys (erase k l)).Nodup := by
  rw [keys_erase]
  exact h.filter _

end Specimen.Entries
