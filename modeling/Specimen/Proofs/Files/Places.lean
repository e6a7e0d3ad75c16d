import Specimen.Files.Access
import Specimen.Proofs.Entries

namespace Specimen.Files

def IsName (name : String) : Prop := name ≠ "." ∧ name ≠ ".." ∧ name.utf8ByteSize ≤ Disk.maxName

instance (name : String) : Decidable (IsName name) := inferInstanceAs (Decidable (_ ∧ _ ∧ _))

lemma append_ne_of_short {suffix short : String} (h : short.length < suffix.length) (name : String) :
    name ++ suffix ≠ short := by
  rintro rfl
  rw [String.length_append] at h
  omega

namespace Disk

inductive Walk (d : Disk) : (start p place : Path) → Prop
  | here {start} : d.find? start = some .directory → Walk d start [] start
  | stay {start rest place} : Walk d start rest place → Walk d start ("." :: rest) place
  | up {start rest place} : Walk d start.dropLast rest place → Walk d start (".." :: rest) place
  | into {start name rest place} : IsName name → d.find? (start ++ [name]) = some .directory →
      Walk d (start ++ [name]) rest place → Walk d start (name :: rest) place

@[simp] lemma find?_root (d : Disk) : d.find? [] = some .directory := rfl

namespace Walk

variable {d : Disk} {start p place : Path}

lemma find? (h : d.Walk start p place) : d.find? place = some .directory := by
  induction h with
  | here hd => exact hd
  | stay _ ih | up _ ih | into _ _ _ ih => exact ih

lemma resolve (h : d.Walk start p place) : d.resolve start p = .ok place := by
  induction h with
  | here => rfl
  | stay _ ih => rwa [Disk.resolve, if_pos rfl]
  | up _ ih => rwa [Disk.resolve, if_neg (by decide), if_pos rfl]
  | @into start name rest place hn hd hw ih =>
    rw [Disk.resolve, if_neg hn.1, if_neg hn.2.1, if_neg (Nat.not_lt.2 hn.2.2)]
    split
    · rename_i hr
      cases hr
      exact ih
    · simp only [hd, ih]

lemma resolve_concat (h : d.Walk start p place) {name : String} (hn : IsName name) :
    d.resolve start (p ++ [name]) = .ok (place ++ [name]) := by
  induction h with
  | here =>
    rw [List.nil_append, Disk.resolve, if_neg hn.1, if_neg hn.2.1, if_neg (Nat.not_lt.2 hn.2.2), if_pos rfl]
  | stay _ ih => rwa [List.cons_append, Disk.resolve, if_pos rfl]
  | up _ ih => rwa [List.cons_append, Disk.resolve, if_neg (by decide), if_pos rfl]
  | into hm hd _ ih =>
    rw [List.cons_append, Disk.resolve, if_neg hm.1, if_neg hm.2.1, if_neg (Nat.not_lt.2 hm.2.2),
      if_neg (List.append_ne_nil_of_right_ne_nil _ (List.cons_ne_nil _ _))]
    simp only [hd, ih]

lemma resolve_concat_of_long (h : d.Walk start p place) {name : String} (hn : maxName < name.utf8ByteSize) :
    d.resolve start (p ++ [name]) = .error .invalidFilename := by
  have hdot : name ≠ "." := by
    rintro rfl
    exact absurd hn (by decide)
  have hdots : name ≠ ".." := by
    rintro rfl
    exact absurd hn (by decide)
  induction h with
  | here => rw [List.nil_append, Disk.resolve, if_neg hdot, if_neg hdots, if_pos hn]
  | stay _ ih => rwa [List.cons_append, Disk.resolve, if_pos rfl]
  | up _ ih => rwa [List.cons_append, Disk.resolve, if_neg (by decide), if_pos rfl]
  | into hm hd _ ih =>
    rw [List.cons_append, Disk.resolve, if_neg hm.1, if_neg hm.2.1, if_neg (Nat.not_lt.2 hm.2.2),
      if_neg (List.append_ne_nil_of_right_ne_nil _ (List.cons_ne_nil _ _))]
    simp only [hd, ih]

lemma locate (h : d.Walk [] p place) : d.locate p = .ok (place, .directory) := by
  rw [Disk.locate, h.resolve]
  simp only [h.find?]

lemma locate_concat (h : d.Walk [] p place) {name : String} (hn : IsName name) :
    d.locate (p ++ [name]) = match d.find? (place ++ [name]) with
      | none => .error .notFound
      | some e => .ok (place ++ [name], e) := by
  cases hf : d.find? (place ++ [name]) with
  | none => simp only [Disk.locate, h.resolve_concat hn, hf]
  | some e => simp only [Disk.locate, h.resolve_concat hn, hf]

lemma makeDirectories (h : d.Walk start p place) : d.makeDirectories start p = (.ok (), d) := by
  induction h with
  | here => rfl
  | stay _ ih => rwa [Disk.makeDirectories, if_pos rfl]
  | up _ ih => rwa [Disk.makeDirectories, if_neg (by decide), if_pos rfl]
  | into hn hd _ ih =>
    rw [Disk.makeDirectories, if_neg hn.1, if_neg hn.2.1, if_neg (Nat.not_lt.2 hn.2.2)]
    simp only [hd, ih]

end Walk

lemma walk_of_resolve {d : Disk} {start p place : Path} (h : d.resolve start p = .ok place)
    (hd : d.find? place = some .directory) : d.Walk start p place := by
  induction p generalizing start with
  | nil =>
    cases h
    exact .here hd
  | cons name rest ih =>
    rw [Disk.resolve] at h
    split at h
    · rename_i hdot
      exact hdot ▸ .stay (ih h)
    · split at h
      · rename_i hdots
        exact hdots ▸ .up (ih h)
      · split at h
        · cases h
        · rename_i hdot hdots hlong
          have hn : IsName name := ⟨hdot, hdots, Nat.not_lt.1 hlong⟩
          split at h
          · rename_i hrest
            subst hrest
            cases h
            exact .into hn hd (.here hd)
          · split at h
            · cases h
            · cases h
            · rename_i hin
              exact .into hn hin (ih h)

lemma locate_eq_ok_iff {d : Disk} {p place : Path} {e : Entry} :
    d.locate p = .ok (place, e) ↔ d.resolve [] p = .ok place ∧ d.find? place = some e := by
  rw [locate]
  constructor
  · intro h
    split at h
    · cases h
    · rename_i hr
      split at h
      · cases h
      · rename_i hf
        cases h
        exact ⟨hr, hf⟩
  · rintro ⟨hr, hf⟩
    simp only [hr, hf]

lemma walk_iff_locate {d : Disk} {p place : Path} :
    d.Walk [] p place ↔ d.locate p = .ok (place, .directory) := by
  refine ⟨Walk.locate, fun h => ?_⟩
  obtain ⟨hr, hd⟩ := locate_eq_ok_iff.1 h
  exact walk_of_resolve hr hd

lemma mem_of_resolve {d : Disk} {start p place : Path} {name : String} (h : d.resolve start p = .ok place)
    (hn : name ∈ place) : name ∈ start ∨ name ∈ p := by
  induction p generalizing start with
  | nil =>
    cases h
    exact .inl hn
  | cons first rest ih =>
    have hinto (h : name ∈ start ++ [first] ∨ name ∈ rest) : name ∈ start ∨ name ∈ first :: rest := by
      rw [List.mem_append, List.mem_singleton] at h
      rw [List.mem_cons]
      exact or_assoc.1 h
    rw [Disk.resolve] at h
    split at h
    · exact (ih h).imp_right (List.mem_cons_of_mem _)
    · split at h
      · exact (ih h).imp ((List.dropLast_sublist _).subset ·) (List.mem_cons_of_mem _)
      · split at h
        · cases h
        · split at h
          · cases h
            exact hinto (.inl hn)
          · split at h
            · cases h
            · cases h
            · exact hinto (ih h)

def KeepsDirectories (d d' : Disk) : Prop := ∀ q, d.find? q = some .directory → d'.find? q = some .directory

lemma Walk.mono {d d' : Disk} {start p place : Path} (h : d.Walk start p place) (hk : d.KeepsDirectories d') :
    d'.Walk start p place := by
  induction h with
  | here hd => exact .here (hk _ hd)
  | stay _ ih => exact .stay ih
  | up _ ih => exact .up ih
  | into hn hd _ ih => exact .into hn (hk _ hd) ih

def GainsDirectories (d d' : Disk) : Prop :=
  ∀ q, d'.find? q = d.find? q ∨ d.find? q = none ∧ d'.find? q = some .directory

namespace GainsDirectories

variable {d d' : Disk}

lemma refl (d : Disk) : d.GainsDirectories d := fun _ => .inl rfl

lemma keeps (h : d.GainsDirectories d') {q : Path} {e : Entry} (hq : d.find? q = some e) :
    d'.find? q = some e := by
  obtain h | ⟨h, -⟩ := h q
  · exact h.trans hq
  · rw [hq] at h
    cases h

lemma of_put {p : Path} (hp : p ≠ []) (hn : d.find? p = none) (h : (d.put p .directory).GainsDirectories d') :
    d.GainsDirectories d' := by
  intro q
  have hq := h q
  rw [find?_put hp] at hq
  split at hq
  · rename_i he
    subst he
    obtain hq | ⟨hq, -⟩ := hq
    · exact .inr ⟨hn, hq⟩
    · cases hq
  · exact hq

end GainsDirectories

def Reached (d : Disk) (place : Path) : Prop := ∀ q, q <+: place → d.find? q = some .directory

lemma Reached.root (d : Disk) : d.Reached [] := by
  intro q hq
  rw [List.prefix_nil.1 hq, find?_root]

lemma Reached.concat {d : Disk} {place : Path} {name : String} (h : d.Reached place)
    (hd : d.find? (place ++ [name]) = some .directory) : d.Reached (place ++ [name]) := by
  intro q hq
  obtain rfl | hq := List.prefix_concat_iff.1 hq
  · exact hd
  · exact h q hq

lemma walk_of_makeDirectories {d d' : Disk} {start p : Path} (h : d.makeDirectories start p = (.ok (), d'))
    (hs : d.Reached start) : d.GainsDirectories d' ∧ ∃ place, d'.Walk start p place := by
  induction p generalizing d start with
  | nil =>
    cases h
    exact ⟨.refl _, start, .here (hs start (List.prefix_refl _))⟩
  | cons name rest ih =>
    rw [makeDirectories] at h
    split at h
    · rename_i hdot
      subst hdot
      obtain ⟨hg, place, hw⟩ := ih h hs
      exact ⟨hg, place, .stay hw⟩
    · split at h
      · rename_i hdots
        subst hdots
        obtain ⟨hg, place, hw⟩ := ih h fun q hq => hs q (hq.trans (List.dropLast_prefix _))
        exact ⟨hg, place, .up hw⟩
      · split at h
        · cases h
        · rename_i hdot hdots hlong
          have hn : IsName name := ⟨hdot, hdots, Nat.not_lt.1 hlong⟩
          have hne : start ++ [name] ≠ [] := List.append_ne_nil_of_right_ne_nil _ (List.cons_ne_nil _ _)
          split at h
          · rename_i hnone
            have hself : (d.put (start ++ [name]) .directory).find? (start ++ [name]) = some .directory := by
              rw [find?_put hne, if_pos rfl]
            -- the directories that are made further on take nothing away from this one
            have hs' : (d.put (start ++ [name]) .directory).Reached start :=
              fun q hq => (GainsDirectories.of_put hne hnone (.refl _)).keeps (hs q hq)
            obtain ⟨hg, place, hw⟩ := ih h (hs'.concat hself)
            exact ⟨.of_put hne hnone hg, place, .into hn (hg.keeps hself) hw⟩
          · rename_i hd
            obtain ⟨hg, place, hw⟩ := ih h (hs.concat hd)
            exact ⟨hg, place, .into hn (hg.keeps hd) hw⟩
          · cases h

section children

variable (d : Disk) (place : Path)

lemma child_eq_some_iff {p : Path} {kind : Kind} {z : String × Kind} :
    (match p.getLast? with
      | some name => if p.dropLast = place then some (name, kind) else none
      | none => none) = some z ↔ p = place ++ [z.1] ∧ kind = z.2 := by
  constructor
  · intro h
    split at h
    · rename_i name hl
      split at h
      · rename_i hp
        cases h
        obtain ⟨front, rfl⟩ := List.getLast?_eq_some_iff.1 hl
        rw [List.dropLast_concat] at hp
        exact ⟨hp ▸ rfl, rfl⟩
      · cases h
    · cases h
  · rintro ⟨rfl, rfl⟩
    simp

lemma mem_children_iff {name : String} {kind : Kind} :
    (name, kind) ∈ d.children place ↔ ∃ e, d.find? (place ++ [name]) = some e ∧ e.kind = kind := by
  have hne : place ++ [name] ≠ [] := List.append_ne_nil_of_right_ne_nil _ (List.cons_ne_nil _ _)
  simp only [children, List.mem_filterMap, find?, if_neg hne]
  constructor
  · rintro ⟨⟨p, e⟩, hm, h⟩
    obtain ⟨rfl, hk⟩ := (child_eq_some_iff place).1 h
    exact ⟨e, Entries.find?_of_mem d.nodup hm, hk⟩
  · rintro ⟨e, he, rfl⟩
    exact ⟨(place ++ [name], e), Entries.mem_of_find? he, (child_eq_some_iff place).2 ⟨rfl, rfl⟩⟩

lemma children_pairwise : (d.children place).Pairwise fun a b => a.1 ≠ b.1 := by
  have hn : d.entries.Pairwise fun a b => a.1 ≠ b.1 := List.pairwise_map.1 d.nodup
  rw [children, List.pairwise_filterMap]
  refine hn.imp fun {a b} hab x hx y hy hxy => hab ?_
  rw [(child_eq_some_iff place).1 hx |>.1, (child_eq_some_iff place).1 hy |>.1, hxy]

end children

end Disk

end Specimen.Files
