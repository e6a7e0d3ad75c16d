import Specimen.Proofs.Json.Readers

/-! Texts that are changed behind what is read. -/

universe u v

namespace Specimen.Json

open Reading

/-- A change of texts that leaves alone what blanks are followed by, and which names are read. -/
structure Shift (T : List Char → List Char) : Prop where
  blanks {s r : List Char} {c : Char} : skipBlanks s = c :: r → skipBlanks (T s) = c :: T r
  length_le {s t : List Char} : t.length ≤ s.length → (T t).length ≤ (T s).length
  name {rigour : Rigour} {s r : List Char} {key : String} :
    (name rigour s).Gives key r → (Json.name rigour (T s)).Gives key (T r)

section

variable {T : List Char → List Char} {α : Type u} {s rest : List Char} {rigour : Rigour}

def Follows (T : List Char → List Char) (read read' : Reader α) : Prop :=
  ∀ s a r, (read s).Gives a r → (read' (T s)).Gives a (T r)

lemma Follows.map {β : Type v} {read read' : Reader α} (h : Follows T read read') (f : α → β) :
    Follows T (fun s => (read s).map f) (fun s => (read' s).map f) := by
  intro s b r hb
  obtain ⟨a, ha, rfl⟩ := gives_map_iff.1 hb
  exact gives_map_iff.2 ⟨a, h s a r ha, rfl⟩

lemma gives_items_shift {start start' : List Char} {read read' : Reader α} (hT : Shift T) (h : Follows T read read')
    {before l : List α} {hs : s.length ≤ start.length} {hs' : (T s).length ≤ start'.length}
    (hl : (items read before s hs).Gives l rest) : (items read' before (T s) hs').Gives l (T rest) := by
  -- each item leaves a shorter text
  induction hn : s.length using Nat.strongRecOn generalizing s before with
  | ind n ih =>
    obtain ⟨a, r, ha, t, hend⟩ := gives_items_iff.1 hl
    refine gives_items_iff.2 ⟨a, T r, h s a r ha, T t, ?_⟩
    rcases hend with ⟨hr, ht, hl⟩ | ⟨hr, rfl, rfl⟩
    · obtain ⟨hlt, -⟩ := ha
      have hshort : t.length < s.length := Nat.lt_trans (length_lt_of_skipBlanks hr) hlt
      exact .inl ⟨hT.blanks hr, Nat.le_trans (hT.length_le (Nat.le_of_lt hshort)) hs',
        ih t.length (hn ▸ hshort) hl rfl⟩
    · exact .inr ⟨hT.blanks hr, rfl, rfl⟩

lemma follows_sequence {read read' : Reader α} (hT : Shift T) (h : Follows T read read') :
    Follows T (sequence read) (sequence read') := by
  intro s l rest hl
  obtain ⟨c, r, hs, hl⟩ := gives_sequence_iff.1 hl
  refine gives_sequence_iff.2 ⟨c, T r, hT.blanks hs, ?_⟩
  split at hl
  · rename_i hc
    obtain ⟨rfl, rfl⟩ := hl
    exact (if_pos hc).mpr ⟨rfl, rfl⟩
  · rename_i hc
    rw [if_neg hc]
    exact gives_items_shift hT h hl

variable {read read' : String → α → Except Fault (Reader α)} {before a : α}

lemma gives_members_shift {start start' : List Char} (hT : Shift T)
    (h : ∀ key before reader, read key before = .ok reader →
      ∃ reader', read' key before = .ok reader' ∧ Follows T reader reader')
    {hs : s.length ≤ start.length} {hs' : (T s).length ≤ start'.length}
    (ha : (members rigour read before s hs).Gives a rest) :
    (members rigour read' before (T s) hs').Gives a (T rest) := by
  induction hn : s.length using Nat.strongRecOn generalizing s before with
  | ind n ih =>
    obtain ⟨key, r, hname, reader, hread, t, hr, after, u, hu, w, hend⟩ := gives_members_iff.1 ha
    obtain ⟨reader', hread', hfollows⟩ := h key before reader hread
    refine gives_members_iff.2 ⟨key, T r, hT.name hname, reader', hread', T t, hT.blanks hr, after, T u,
      hfollows t after u hu, T w, ?_⟩
    rcases hend with ⟨hw, hle, ha⟩ | ⟨hw, rfl, rfl⟩
    · obtain ⟨hlr, -⟩ := hname
      obtain ⟨hlu, -⟩ := hu
      have hlt := length_lt_of_skipBlanks hr
      have hlw := length_lt_of_skipBlanks hw
      have hshort : w.length < s.length := by omega
      exact .inl ⟨hT.blanks hw, Nat.le_trans (hT.length_le (Nat.le_of_lt hshort)) hs',
        ih w.length (hn ▸ hshort) ha rfl⟩
    · exact .inr ⟨hT.blanks hw, rfl, rfl⟩

lemma follows_block (hT : Shift T)
    (h : ∀ key before reader, read key before = .ok reader →
      ∃ reader', read' key before = .ok reader' ∧ Follows T reader reader') :
    Follows T (block rigour read before) (block rigour read' before) := by
  intro s a rest ha
  obtain ⟨c, r, hs, ha⟩ := gives_block_iff.1 ha
  refine gives_block_iff.2 ⟨c, T r, hT.blanks hs, ?_⟩
  split at ha
  · rename_i hc
    obtain ⟨rfl, rfl⟩ := ha
    exact (if_pos hc).mpr ⟨rfl, rfl⟩
  · rename_i hc
    rw [if_neg hc]
    exact gives_members_shift hT h ha

lemma follows_memberOf {read read' : Reader Json} (h : Follows T read read') (key : String)
    (before : List (String × Json)) (reader : Reader (List (String × Json)))
    (hr : memberOf read key before = .ok reader) :
    ∃ reader', memberOf read' key before = .ok reader' ∧ Follows T reader reader' := by
  cases hr
  exact ⟨_, rfl, h.map _⟩

end

lemma gives_value_of_leaf {rigour : Rigour} {s rest : List Char} {v : Json}
    (h : (leaf rigour s).Gives v rest) :
    (levels : Nat) → (value rigour levels s).Gives v rest
  | 0 => h
  | levels + 1 => by
    obtain ⟨c, r, hs, hc⟩ := gives_leaf_iff.1 h
    have hne : c ≠ '[' ∧ c ≠ '{' := by
      constructor <;> rintro rfl <;> simp at hc
    refine gives_value_succ_iff.2 ⟨c, r, hs, ?_⟩
    rw [if_neg hne.1, if_neg hne.2]
    exact h

lemma follows_value {T : List Char → List Char} {rigour : Rigour} (hT : Shift T)
    (hleaf : Follows T (leaf rigour) (leaf rigour)) {fewer more : Nat} (hle : fewer ≤ more) :
    Follows T (value rigour fewer) (value rigour more) := by
  induction fewer generalizing more with
  | zero => exact fun s v r h => gives_value_of_leaf (hleaf s v r h) more
  | succ fewer ih =>
    obtain ⟨more, rfl⟩ := Nat.exists_eq_add_of_le' hle
    have hinner : Follows T (value rigour fewer) (value rigour (more + fewer)) := ih (Nat.le_add_left _ _)
    intro s v rest h
    obtain ⟨c, r, hs, h⟩ := gives_value_succ_iff.1 h
    refine gives_value_succ_iff.2 ⟨c, T r, hT.blanks hs, ?_⟩
    split at h
    · rename_i hc
      obtain ⟨l, hl, rfl⟩ := h
      exact (if_pos hc).mpr ⟨l, follows_sequence hT hinner r l rest hl, rfl⟩
    · rename_i hc
      rw [if_neg hc]
      split at h
      · rename_i hb
        obtain ⟨ms, hms, rfl⟩ := h
        exact (if_pos hb).mpr ⟨ms, follows_block hT (follows_memberOf hinner) r ms rest hms, rfl⟩
      · rename_i hb
        exact (if_neg hb).mpr (hleaf s v rest h)

end Specimen.Json
