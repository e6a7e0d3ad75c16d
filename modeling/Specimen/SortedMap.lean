import Specimen.Entries

/-! Finite maps from text to values, in the order of code points, which is also the byte order of the keys in
UTF-8. -/

universe u v

namespace Specimen

structure SortedMap (α : Type u) where
  entries : List (String × α)
  sorted : entries.Pairwise (fun a b => a.1 < b.1)

namespace SortedMap

variable {α : Type u} {β : Type v}

def empty : SortedMap α := ⟨[], .nil⟩

instance : EmptyCollection (SortedMap α) := ⟨empty⟩

instance : Inhabited (SortedMap α) := ⟨empty⟩

def keys (m : SortedMap α) : List String := m.entries.map Prod.fst

def size (m : SortedMap α) : Nat := m.entries.length

def find? (m : SortedMap α) (k : String) : Option α := Entries.find? k m.entries

def contains (m : SortedMap α) (k : String) : Bool := (m.find? k).isSome

def insertEntry (k : String) (v : α) : List (String × α) → List (String × α)
  | [] => [(k, v)]
  | e :: r => if k < e.1 then (k, v) :: e :: r else if k = e.1 then (k, v) :: r else e :: insertEntry k v r

theorem mem_insertEntry {k : String} {v : α} {l : List (String × α)} {e : String × α}
    (h : e ∈ insertEntry k v l) : e = (k, v) ∨ e ∈ l := by
  induction l with
  | nil => simpa [insertEntry] using h
  | cons a r ih =>
    rw [insertEntry] at h
    split at h
    · simpa using h
    · split at h
      · rcases List.mem_cons.1 h with h | h
        · exact .inl h
        · exact .inr (List.mem_cons_of_mem _ h)
      · rcases List.mem_cons.1 h with h | h
        · exact .inr (h ▸ List.mem_cons_self)
        · exact (ih h).imp id (List.mem_cons_of_mem _)

theorem sorted_insertEntry (k : String) (v : α) {l : List (String × α)}
    (h : l.Pairwise (fun a b => a.1 < b.1)) : (insertEntry k v l).Pairwise (fun a b => a.1 < b.1) := by
  induction l with
  | nil => simp [insertEntry]
  | cons a r ih =>
    obtain ⟨ha, hr⟩ := List.pairwise_cons.1 h
    rw [insertEntry]
    split
    · rename_i hk
      refine List.pairwise_cons.2 ⟨fun e he => ?_, h⟩
      rcases List.mem_cons.1 he with rfl | he
      · exact hk
      · exact String.lt_trans hk (ha e he)
    · split
      · rename_i hk
        exact List.pairwise_cons.2 ⟨fun e he => by simpa [hk] using ha e he, hr⟩
      · rename_i hlt hne
        refine List.pairwise_cons.2 ⟨fun e he => ?_, ih hr⟩
        rcases mem_insertEntry he with rfl | he
        · exact Decidable.byContradiction fun hn => hne (String.le_antisymm hn hlt)
        · exact ha e he

def insert (m : SortedMap α) (k : String) (v : α) : SortedMap α :=
  ⟨insertEntry k v m.entries, sorted_insertEntry k v m.sorted⟩

def erase (m : SortedMap α) (k : String) : SortedMap α :=
  ⟨Entries.erase k m.entries, m.sorted.filter _⟩

def alter (m : SortedMap α) (k : String) (f : Option α → α) : SortedMap α := m.insert k (f (m.find? k))

def map (f : α → β) (m : SortedMap α) : SortedMap β :=
  ⟨m.entries.map (fun e => (e.1, f e.2)), List.pairwise_map.2 m.sorted⟩

@[simp] theorem find?_empty (k : String) : (empty : SortedMap α).find? k = none := rfl

theorem find?_eq_none_of_lt {l : List (String × α)} {k : String} (h : ∀ e ∈ l, k < e.1) :
    Entries.find? k l = none := by
  induction l with
  | nil => rfl
  | cons a r ih =>
    have hne : k ≠ a.1 := fun hk => String.lt_irrefl k (by simpa [← hk] using h a List.mem_cons_self)
    simpa [Entries.find?, hne] using ih fun e he => h e (List.mem_cons_of_mem _ he)

theorem find?_insertEntry (k j : String) (v : α) (l : List (String × α)) :
    Entries.find? j (insertEntry k v l) = if j = k then some v else Entries.find? j l := by
  induction l with
  | nil => rfl
  | cons a r ih => grind [insertEntry, Entries.find?]

theorem find?_insert (m : SortedMap α) (k j : String) (v : α) :
    (m.insert k v).find? j = if j = k then some v else m.find? j :=
  find?_insertEntry k j v m.entries

theorem find?_erase (m : SortedMap α) (k j : String) :
    (m.erase k).find? j = if j = k then none else m.find? j :=
  Entries.find?_erase k j m.entries

theorem entries_eq_of_find? {l₁ l₂ : List (String × α)} (h₁ : l₁.Pairwise (fun a b => a.1 < b.1))
    (h₂ : l₂.Pairwise (fun a b => a.1 < b.1)) (h : ∀ k, Entries.find? k l₁ = Entries.find? k l₂) : l₁ = l₂ := by
  induction l₁ generalizing l₂ with
  | nil =>
    cases l₂ with
    | nil => rfl
    | cons b s => simpa [Entries.find?] using h b.1
  | cons a r ih =>
    cases l₂ with
    | nil => simpa [Entries.find?] using h a.1
    | cons b s =>
      obtain ⟨ha, hr⟩ := List.pairwise_cons.1 h₁
      obtain ⟨hb, hs⟩ := List.pairwise_cons.1 h₂
      have key : a.1 = b.1 := by
        refine Decidable.byContradiction fun hne => ?_
        by_cases hlt : a.1 < b.1
        · have hn : Entries.find? a.1 (b :: s) = none := find?_eq_none_of_lt fun e he => by
            rcases List.mem_cons.1 he with rfl | he
            · exact hlt
            · exact String.lt_trans hlt (hb e he)
          have := (h a.1).trans hn
          simp [Entries.find?] at this
        · have hgt : b.1 < a.1 := Decidable.byContradiction fun hn => hne (String.le_antisymm hn hlt)
          have hn : Entries.find? b.1 (a :: r) = none := find?_eq_none_of_lt fun e he => by
            rcases List.mem_cons.1 he with rfl | he
            · exact hgt
            · exact String.lt_trans hgt (ha e he)
          have := (h b.1).symm.trans hn
          simp [Entries.find?] at this
      have value : a.2 = b.2 := by simpa [Entries.find?, key] using h a.1
      have rest : r = s := ih hr hs fun k => by
        by_cases hk : k = a.1
        · rw [hk, find?_eq_none_of_lt ha, key, find?_eq_none_of_lt hb]
        · simpa [Entries.find?, hk, key ▸ hk] using h k
      rw [rest, Prod.ext key value]

theorem ext_find? {m n : SortedMap α} (h : ∀ k, m.find? k = n.find? k) : m = n := by
  have := entries_eq_of_find? m.sorted n.sorted h
  cases m
  cases n
  simpa using this

theorem keys_sorted (m : SortedMap α) : m.keys.Pairwise (· < ·) := List.pairwise_map.2 m.sorted

theorem nodup_of_sorted {l : List String} (h : l.Pairwise (· < ·)) : l.Nodup := by
  refine h.imp fun {a b} hab he => ?_
  subst he
  exact String.lt_irrefl a hab

theorem nodup_keys (m : SortedMap α) : m.keys.Nodup := nodup_of_sorted m.keys_sorted

theorem mem_keys_iff {m : SortedMap α} {k : String} : k ∈ m.keys ↔ m.find? k ≠ none := by
  rw [Ne, find?, Entries.find?_eq_none_iff, Decidable.not_not]
  rfl

end SortedMap

end Specimen
