import Specimen.Proofs.Schema.Everywhere

namespace Specimen.Schema

mutual

def nodes (path : Path) : Schema → List (Path × Schema)
  | .scalar tag => [(path, .scalar tag)]
  | .image spec => [(path, .image spec)]
  | .object fields => (path, .object fields) :: nodesOfFields path fields
  | .array minSize maxSize element => (path, .array minSize maxSize element) :: nodes (.element :: path) element

def nodesOfFields (path : Path) : List (String × Schema) → List (Path × Schema)
  | [] => []
  | (name, s) :: rest => nodes (.field name :: path) s ++ nodesOfFields path rest

end

mutual

lemma level_le_iff {n : Nat} {path : Path} : {s : Schema} →
    ((∀ p ∈ s.nodes path, p.1.level ≤ n) ↔ path.length + s.depth ≤ n)
  | .scalar _ | .image _ => by simp [nodes, depth, Path.level]
  | .object fields => by
    rw [nodes, List.forall_mem_cons, depth]
    constructor
    · rintro ⟨(hlevel : path.level ≤ n), h⟩
      have hfields := (level_le_fields_iff hlevel).1 h
      rw [Path.level] at hfields
      omega
    · intro h
      have hlevel : path.level ≤ n := Nat.le_trans (Nat.add_le_add_left (Nat.le_add_right 1 _) _) h
      refine ⟨hlevel, (level_le_fields_iff hlevel).2 ?_⟩
      rwa [Path.level, Nat.add_assoc]
  | .array _ _ element => by
    have hlevel : path.level = path.length + 1 := rfl
    rw [nodes, List.forall_mem_cons, level_le_iff, depth, List.length_cons, hlevel]
    omega

lemma level_le_fields_iff {n : Nat} {path : Path} (hlevel : path.level ≤ n) : {fields : List (String × Schema)} →
    ((∀ p ∈ nodesOfFields path fields, p.1.level ≤ n) ↔ path.level + depthFields fields ≤ n)
  | [] => by simpa [nodesOfFields, depthFields] using hlevel
  | (name, s) :: rest => by
    rw [nodesOfFields, List.forall_mem_append, level_le_iff, level_le_fields_iff hlevel, depthFields, List.length_cons]
    rw [Path.level] at *
    omega

end

lemma depth_le_iff {n : Nat} {s : Schema} : s.depth ≤ n ↔ ∀ p ∈ s.nodes [], p.1.level ≤ n := by
  rw [level_le_iff, List.length_nil, Nat.zero_add]

mutual

lemma everywhere_iff {P : Schema → Prop} (path : Path) : {s : Schema} →
    (s.Everywhere P ↔ ∀ p ∈ s.nodes path, P p.2)
  | .scalar _ | .image _ => by simp [Everywhere, nodes]
  | .object fields => by rw [Everywhere, nodes, List.forall_mem_cons, everywhereIn_iff_nodes path]
  | .array _ _ element => by rw [Everywhere, nodes, List.forall_mem_cons, everywhere_iff (.element :: path)]

lemma everywhereIn_iff_nodes {P : Schema → Prop} (path : Path) : {fields : List (String × Schema)} →
    (EverywhereIn P fields ↔ ∀ p ∈ nodesOfFields path fields, P p.2)
  | [] => by simp [EverywhereIn, nodesOfFields]
  | (name, s) :: rest => by
    rw [EverywhereIn, nodesOfFields, List.forall_mem_append, everywhere_iff (.field name :: path),
      everywhereIn_iff_nodes path]

end

end Specimen.Schema
