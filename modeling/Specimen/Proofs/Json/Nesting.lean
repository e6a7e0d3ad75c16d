import Specimen.Proofs.Entries
import Specimen.Proofs.Json.Shift

universe u

namespace Specimen.Json

open Reading

lemma nestingItems_le_iff {l : List Json} {n : Nat} : nestingItems l ≤ n ↔ ∀ v ∈ l, v.nesting ≤ n := by
  induction l with
  | nil => simp [nestingItems]
  | cons v r ih => rw [nestingItems, Nat.max_le, ih, List.forall_mem_cons]

lemma nestingMembers_le_iff {l : List (String × Json)} {n : Nat} :
    nestingMembers l ≤ n ↔ ∀ e ∈ l, e.2.nesting ≤ n := by
  induction l with
  | nil => simp [nestingMembers]
  | cons e r ih => rw [nestingMembers, Nat.max_le, ih, List.forall_mem_cons]

lemma nesting_arr_le_iff {l : List Json} {n : Nat} : (arr l).nesting ≤ n + 1 ↔ ∀ v ∈ l, v.nesting ≤ n := by
  rw [nesting, ← nestingItems_le_iff]
  omega

lemma nesting_obj_le_iff {l : List (String × Json)} {n : Nat} :
    (obj l).nesting ≤ n + 1 ↔ ∀ e ∈ l, e.2.nesting ≤ n := by
  rw [nesting, ← nestingMembers_le_iff]
  omega

section loops

variable {α : Type u} {start s rest : List Char}

lemma forall_mem_items {read : Reader α} {P : α → Prop} (h : ∀ s a r, (read s).Gives a r → P a)
    {before l : List α} {hs : s.length ≤ start.length} (hb : ∀ a ∈ before, P a)
    (hl : (items read before s hs).Gives l rest) : ∀ a ∈ l, P a := by
  induction hn : s.length using Nat.strongRecOn generalizing s before with
  | ind n ih =>
    obtain ⟨a, r, ha, t, hend⟩ := gives_items_iff.1 hl
    have hb' : ∀ b ∈ a :: before, P b := List.forall_mem_cons.2 ⟨h s a r ha, hb⟩
    rcases hend with ⟨hr, ht, hl⟩ | ⟨-, rfl, -⟩
    · obtain ⟨hlt, -⟩ := ha
      exact ih t.length (hn ▸ Nat.lt_trans (length_lt_of_skipBlanks hr) hlt) hb' hl rfl
    · exact fun b hmem => hb' b (List.mem_reverse.1 hmem)

lemma forall_mem_sequence {read : Reader α} {P : α → Prop} (h : ∀ s a r, (read s).Gives a r → P a)
    {l : List α} (hl : (sequence read s).Gives l rest) : ∀ a ∈ l, P a := by
  obtain ⟨c, r, -, hl⟩ := gives_sequence_iff.1 hl
  split at hl
  · simp [hl.1]
  · exact forall_mem_items h (by simp) hl

variable {rigour : Rigour} {read : String → α → Except Fault (Reader α)} {before a : α}

lemma members_induction {I : α → Prop}
    (h : ∀ key before reader t after u, read key before = .ok reader → (reader t).Gives after u →
      I before → I after)
    {hs : s.length ≤ start.length} (hb : I before)
    (ha : (members rigour read before s hs).Gives a rest) : I a := by
  induction hn : s.length using Nat.strongRecOn generalizing s before with
  | ind n ih =>
    obtain ⟨key, r, hname, reader, hread, t, hr, after, u, hu, w, hend⟩ := gives_members_iff.1 ha
    have hafter : I after := h key before reader t after u hread hu hb
    rcases hend with ⟨hw, hle, ha⟩ | ⟨-, rfl, -⟩
    · obtain ⟨hlr, -⟩ := hname
      obtain ⟨hlu, -⟩ := hu
      have := length_lt_of_skipBlanks hr
      have := length_lt_of_skipBlanks hw
      exact ih w.length (by omega) hafter ha rfl
    · exact hafter

lemma block_induction {I : α → Prop}
    (h : ∀ key before reader t after u, read key before = .ok reader → (reader t).Gives after u →
      I before → I after)
    (hb : I before) (ha : (block rigour read before s).Gives a rest) : I a := by
  obtain ⟨c, r, -, ha⟩ := gives_block_iff.1 ha
  split at ha
  · exact ha.1 ▸ hb
  · exact members_induction h hb ha

end loops

lemma nesting_of_leaf {rigour : Rigour} {s rest : List Char} {v : Json} (h : (leaf rigour s).Gives v rest) :
    v.nesting = 0 := by
  obtain ⟨c, r, -, h⟩ := gives_leaf_iff.1 h
  split at h
  · obtain ⟨t, -, rfl⟩ := h
    rfl
  · split at h
    · obtain ⟨n, -, rfl⟩ := h
      rfl
    · rcases h with ⟨-, -, rfl⟩ | ⟨-, -, rfl⟩ | ⟨-, -, rfl⟩ <;> rfl

lemma nesting_le_of_value {rigour : Rigour} {levels : Nat} {s rest : List Char} {v : Json}
    (h : (value rigour levels s).Gives v rest) : v.nesting ≤ levels := by
  induction levels generalizing s v rest with
  | zero => exact Nat.le_of_eq (nesting_of_leaf h)
  | succ levels ih =>
    obtain ⟨c, r, -, h⟩ := gives_value_succ_iff.1 h
    split at h
    · obtain ⟨l, hl, rfl⟩ := h
      exact nesting_arr_le_iff.2 (forall_mem_sequence (fun _ _ _ hv => ih hv) hl)
    · split at h
      · obtain ⟨ms, hms, rfl⟩ := h
        refine nesting_obj_le_iff.2 (block_induction
          (I := fun ms => ∀ e ∈ ms, e.2.nesting ≤ levels) ?_ (by simp) hms)
        intro key before reader t after u hread hu hb
        cases hread
        obtain ⟨w, hw, rfl⟩ := gives_map_iff.1 hu
        exact Entries.forall_mem_set hb (ih hw)
      · rw [nesting_of_leaf h]
        exact Nat.zero_le _

lemma shift_id : Shift id where
  blanks h := h
  length_le h := h
  name h := h

lemma gives_value_mono {rigour : Rigour} {fewer more : Nat} (hle : fewer ≤ more) {s rest : List Char}
    {v : Json} (h : (value rigour fewer s).Gives v rest) : (value rigour more s).Gives v rest :=
  follows_value shift_id (fun _ _ _ hv => hv) hle s v rest h

end Specimen.Json
