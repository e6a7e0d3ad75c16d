import Specimen.Proofs.Schema.Sized

namespace Specimen.Schema

open Json (Number)

inductive Replaces (q : Position) (y : Json) : Place → Json → Json → Prop
  | here : Replaces q y q.place q.value y
  | element {p members a b element element'} : DescribesArray members a b element →
      Replaces q y p.element element element' →
      Replaces q y p (.obj members) (.obj (Entries.set "schema" element' members))
  | member {p before name v w after} : ¬ IsArray (before ++ (name, v) :: after) →
      ¬ IsImage (before ++ (name, v) :: after) → Replaces q y (p.field name) v w →
      Replaces q y p (.obj (before ++ (name, v) :: after)) (.obj (before ++ (name, w) :: after))

inductive Respells : List (String × Json) → List (String × Json) → Prop
  | sizes {members a b element} {m n m' n' : Number} : DescribesArray members a b element →
      Entries.find? "size" members = some (.arr [.num m, .num n]) → m'.value = m.value → n'.value = n.value →
      Respells members (Entries.set "size" (.arr [.num m', .num n']) members)

section positions

variable {p : Place} {q : Position} {y : Json}

mutual

lemma exists_replaces (y : Json) {p : Place} {q : Position} : {v : Json} → q ∈ visited p v → ∃ w, Replaces q y p v w
  | .obj members, h => by
    rw [visited] at h
    rcases List.mem_cons.1 h with rfl | h
    · exact ⟨y, .here⟩
    · by_cases ha : IsArray members
      · rw [if_pos ha] at h
        obtain ⟨a, b, element, ha⟩ := ha
        obtain ⟨v, w, hv, hw⟩ := exists_replaces_element y h
        cases ha.schema.symm.trans hv
        exact ⟨_, .element ha hw⟩
      · rw [if_neg ha] at h
        by_cases hi : IsImage members
        · rw [if_pos hi] at h
          cases h
        · rw [if_neg hi] at h
          obtain ⟨before, name, v, w, after, rfl, hw⟩ := exists_replaces_member y h
          exact ⟨_, .member ha hi hw⟩
  | .null, h | .bool _, h | .num _, h | .str _, h | .arr _, h => by
    unfold visited at h
    rw [List.mem_singleton.1 h]
    exact ⟨y, .here⟩

lemma exists_replaces_member (y : Json) {p : Place} {q : Position} : {l : List (String × Json)} →
    q ∈ visitedMembers p l →
    ∃ before name v w after, l = before ++ (name, v) :: after ∧ Replaces q y (p.field name) v w
  | [], h => by
    rw [visitedMembers] at h
    cases h
  | (name, v) :: rest, h => by
    rw [visitedMembers] at h
    rcases List.mem_append.1 h with h | h
    · obtain ⟨w, hw⟩ := exists_replaces y h
      exact ⟨[], name, v, w, rest, rfl, hw⟩
    · obtain ⟨before, name', v', w, after, rfl, hw⟩ := exists_replaces_member y h
      exact ⟨(name, v) :: before, name', v', w, after, rfl, hw⟩

lemma exists_replaces_element (y : Json) {p : Place} {q : Position} : {l : List (String × Json)} →
    q ∈ visitedElement p l → ∃ v w, Entries.find? "schema" l = some v ∧ Replaces q y p v w
  | [], h => by
    rw [visitedElement] at h
    cases h
  | (name, v) :: rest, h => by
    rw [visitedElement] at h
    rw [Entries.find?_cons]
    by_cases hname : name = "schema"
    · rw [if_pos hname] at h
      rw [if_pos hname.symm]
      obtain ⟨w, hw⟩ := exists_replaces y h
      exact ⟨v, w, rfl, hw⟩
    · rw [if_neg hname] at h
      rw [if_neg (Ne.symm hname)]
      exact exists_replaces_element y h

end

lemma mem_visited_self (p : Place) (v : Json) : ⟨p, v⟩ ∈ visited p v := by
  cases v with
  | obj members =>
    rw [visited]
    exact List.mem_cons_self
  | null | bool | num | str | arr => exact List.mem_singleton.2 rfl

lemma mem_visitedMembers {before after : List (String × Json)} {name : String} {v : Json}
    (h : q ∈ visited (p.field name) v) : q ∈ visitedMembers p (before ++ (name, v) :: after) := by
  induction before with
  | nil =>
    rw [List.nil_append, visitedMembers]
    exact List.mem_append_left _ h
  | cons e before ih =>
    rw [List.cons_append, visitedMembers]
    exact List.mem_append_right _ ih

lemma Replaces.mem_visited {v w : Json} (h : Replaces q y p v w) : q ∈ visited p v := by
  induction h with
  | here => exact mem_visited_self _ _
  | element ha _ ih =>
    rw [visited, if_pos ⟨_, _, _, ha⟩, visitedElement_eq ha.schema]
    exact List.mem_cons_of_mem _ ih
  | member ha hi _ ih =>
    rw [visited, if_neg ha, if_neg hi]
    exact List.mem_cons_of_mem _ (mem_visitedMembers ih)

lemma exists_replaces_iff (y : Json) {v : Json} : (∃ w, Replaces q y p v w) ↔ q ∈ visited p v :=
  ⟨fun ⟨_, h⟩ => h.mem_visited, exists_replaces y⟩

end positions

section normalize

variable {path : Path} {members members' : List (String × Json)} {a b : UInt64} {element : Json}

lemma normalizeElement_eq (h : Entries.find? "schema" members = some element) :
    normalizeElement path members = normalize path element := by
  induction members with
  | nil => cases h
  | cons e r ih =>
    obtain ⟨name, v⟩ := e
    rw [Entries.find?_cons] at h
    rw [normalizeElement]
    by_cases hname : name = "schema"
    · rw [if_pos hname.symm, Option.some.injEq] at h
      rw [if_pos hname, ← h]
    · rw [if_neg (Ne.symm hname)] at h
      rw [if_neg hname, ih h]

lemma normalize_array (h : DescribesArray members a b element) (path : Path) :
    normalize path (.obj members) =
      if maxDepth < path.level then .error (.tooDeep path)
      else if b < a then .error (.sizesInverted path a b)
      else (normalize (.element :: path) element).map (.array a b) := by
  rw [normalize]
  simp only [describe_eq_array_iff.2 ⟨element, h⟩, normalizeElement_eq h.schema]

lemma normalize_record (ha : ¬ IsArray members) (hi : ¬ IsImage members) (path : Path) :
    normalize path (.obj members) =
      if maxDepth < path.level then .error (.tooDeep path) else (normalizeFields path members).map .object := by
  rw [normalize]
  simp only [describe_of_record ha hi]

lemma normalizeFields_congr {before after : List (String × Json)} {name : String} {v w : Json}
    (h : normalize (.field name :: path) w = normalize (.field name :: path) v) :
    normalizeFields path (before ++ (name, w) :: after) = normalizeFields path (before ++ (name, v) :: after) := by
  induction before with
  | nil => rw [List.nil_append, List.nil_append, normalizeFields_cons, normalizeFields_cons, h]
  | cons e before ih => rw [List.cons_append, List.cons_append, normalizeFields_cons, normalizeFields_cons, ih]

lemma describesArray_set_size {m n : Number} (h : DescribesArray members a b element) (hm : m.value = a.toNat)
    (hn : n.value = b.toNat) : DescribesArray (Entries.set "size" (.arr [.num m, .num n]) members) a b element where
  type := by rw [Entries.find?_set, if_neg (by decide), h.type]
  sizes := ⟨m, n, by rw [Entries.find?_set, if_pos rfl], hm, hn⟩
  schema := by rw [Entries.find?_set, if_neg (by decide), h.schema]
  truthy := h.truthy

lemma describesArray_set_schema {element' : Json} (h : DescribesArray members a b element) (ht : ¬ element'.Falsy) :
    DescribesArray (Entries.set "schema" element' members) a b element' where
  type := by rw [Entries.find?_set, if_neg (by decide), h.type]
  sizes := by rw [Entries.find?_set, if_neg (by decide)]; exact h.sizes
  schema := by rw [Entries.find?_set, if_pos rfl]
  truthy := ht

lemma Respells.normalize_eq (h : Respells members members') (path : Path) :
    normalize path (.obj members') = normalize path (.obj members) := by
  cases h with
  | sizes ha hs hm hn =>
    obtain ⟨_, _, hs', ha', hb'⟩ := ha.sizes
    cases hs.symm.trans hs'
    rw [normalize_array ha, normalize_array (describesArray_set_size ha (hm.trans ha') (hn.trans hb'))]

def SameBesideObjects (members members' : List (String × Json)) : Prop :=
  ∀ name, Entries.find? name members' = Entries.find? name members ∨
    ∃ k k', Entries.find? name members = some (.obj k) ∧ Entries.find? name members' = some (.obj k')

namespace SameBesideObjects

lemma of_member {before after : List (String × Json)} {name : String} {k k' : List (String × Json)} :
    SameBesideObjects (before ++ (name, .obj k) :: after) (before ++ (name, .obj k') :: after) := by
  intro other
  induction before with
  | nil =>
    simp only [List.nil_append, Entries.find?_cons]
    by_cases hname : other = name
    · exact .inr ⟨k, k', if_pos hname, if_pos hname⟩
    · exact .inl ((if_neg hname).trans (if_neg hname).symm)
  | cons e before ih =>
    simp only [List.cons_append, Entries.find?_cons]
    by_cases hname : other = e.1
    · exact .inl ((if_pos hname).trans (if_pos hname).symm)
    · rwa [if_neg hname, if_neg hname]

lemma find?_eq (h : SameBesideObjects members members') {name : String} {v : Json} (hv : ∀ k, v ≠ .obj k)
    (hf : Entries.find? name members = some v) : Entries.find? name members' = some v := by
  rcases h name with he | ⟨k, k', hk, -⟩
  · exact he.trans hf
  · cases hk.symm.trans hf
    exact absurd rfl (hv k)

lemma isArray (h : SameBesideObjects members members') (ha : IsArray members) : IsArray members' := by
  obtain ⟨a, b, element, ha⟩ := ha
  obtain ⟨m, n, hs, hm, hn⟩ := ha.sizes
  have htype : Entries.find? "type" members' = some (.str "array") := h.find?_eq (by simp) ha.type
  have hsizes : Entries.find? "size" members' = some (.arr [.num m, .num n]) := h.find?_eq (by simp) hs
  rcases h "schema" with he | ⟨k, k', -, hk'⟩
  · exact ⟨a, b, element, htype, ⟨m, n, hsizes, hm, hn⟩, he.trans ha.schema, ha.truthy⟩
  · exact ⟨a, b, .obj k', htype, ⟨m, n, hsizes, hm, hn⟩, hk', fun hf => by cases hf⟩

lemma isImage (h : SameBesideObjects members members') (hi : IsImage members) : IsImage members' :=
  h.find?_eq (by simp) hi

end SameBesideObjects

end normalize

namespace Replaces

variable {p : Place} {place : Place} {k k' : List (String × Json)} {v w : Json}

lemma exists_objects (h : Replaces ⟨place, .obj k⟩ (.obj k') p v w) : ∃ l l', v = .obj l ∧ w = .obj l' := by
  cases h with
  | here => exact ⟨k, k', rfl, rfl⟩
  | element => exact ⟨_, _, rfl, rfl⟩
  | member => exact ⟨_, _, rfl, rfl⟩

lemma normalize_eq (h : Replaces ⟨place, .obj k⟩ (.obj k') p v w)
    (hk : ∀ path, normalize path (.obj k') = normalize path (.obj k)) (path : Path) :
    normalize path w = normalize path v := by
  induction h generalizing path with
  | here => exact hk path
  | element ha hr ih =>
    -- an object is truthy, so the description stays one of an array
    obtain ⟨_, l', -, rfl⟩ := hr.exists_objects
    rw [normalize_array ha, normalize_array (describesArray_set_schema ha fun hf => by cases hf), ih]
  | @member p before name _ _ after ha hi hr ih =>
    obtain ⟨l, l', rfl, rfl⟩ := hr.exists_objects
    have hsame : SameBesideObjects (before ++ (name, .obj l') :: after) (before ++ (name, .obj l) :: after) :=
      .of_member
    rw [normalize_record ha hi, normalize_record (mt hsame.isArray ha) (mt hsame.isImage hi),
      normalizeFields_congr (ih _)]

end Replaces

/-- A number bounds an array if it is a natural number of 64 bits, which is taken as it is. So the bounds in the
description of an array may be spelled in other ways, wherever the description is visited. -/
theorem sizes_exact :
    (∀ (v : Json) (k : UInt64), v.whole? = some k ↔ ∃ n : Number, v = .num n ∧ n.value = k.toNat) ∧
    (∀ v : Json, v.whole? = none ↔ ∀ n : Number, v = .num n → ∀ k : ℕ, n.value = k → 2 ^ 64 ≤ k) ∧
    (∀ v q y, (∃ w, Replaces q y .root v w) ↔ q ∈ visited .root v) ∧
    ∀ v w place members members', Respells members members' →
      Replaces ⟨place, .obj members⟩ (.obj members') .root v w → ofJson w = ofJson v := by
  refine ⟨fun v k => Json.whole?_eq_some_iff, fun v => ?_, fun v q y => exists_replaces_iff y,
    fun v w place members members' hs hr => hr.normalize_eq hs.normalize_eq []⟩
  rw [Option.eq_none_iff_forall_ne_some]
  constructor
  · rintro h n rfl k hk
    by_contra hlt
    have hk' : n.value = (UInt64.ofNat k).toNat := by rw [hk, UInt64.toNat_ofNat_of_lt' (Nat.not_le.1 hlt)]
    exact h _ (Json.whole?_eq_some_iff.2 ⟨n, rfl, hk'⟩)
  · rintro h k hk
    obtain ⟨n, rfl, hn⟩ := Json.whole?_eq_some_iff.1 hk
    exact absurd k.toNat_lt (Nat.not_lt.2 (h n rfl _ hn))

section

def three : Binary64 := ⟨false, 0x4008000000000000, by decide⟩

def namesFrom (least : Number) : List (String × Json) :=
  [("type", .str "array"), ("size", .arr [.num least, .num (.natural 5)]), ("schema", .str "name")]

def crewsOf (element : Json) : List (String × Json) :=
  [("type", .str "array"), ("size", .arr [.num (.natural 1), .num (.natural 2)]), ("schema", element)]

def shipOf (least : Number) : Json := .obj [("captain", .str "name"), ("crews", .obj (crewsOf (.obj (namesFrom least))))]

lemma value_three : (Number.double three).value = (Number.natural 3).value := by
  have h : three.natural? = some 3 := by decide +kernel
  exact Binary64.natural?_eq_some_iff.1 h

lemma describesArray_namesFrom : DescribesArray (namesFrom (.natural 3)) 3 5 (.str "name") where
  type := rfl
  sizes := ⟨_, _, rfl, rfl, rfl⟩
  schema := rfl
  truthy := (Json.isTruthy_iff _).1 (by decide)

lemma describesArray_crewsOf (members : List (String × Json)) :
    DescribesArray (crewsOf (.obj members)) 1 2 (.obj members) where
  type := rfl
  sizes := ⟨_, _, rfl, rfl, rfl⟩
  schema := rfl
  truthy h := by cases h

def crewPosition : Position := ⟨(Place.root.field "crews").element, .obj (namesFrom (.natural 3))⟩

lemma replaces_shipOf (least : Number) :
    Replaces crewPosition (.obj (namesFrom least)) .root (shipOf (.natural 3)) (shipOf least) := by
  have ha : ¬ IsArray [("captain", .str "name"), ("crews", .obj (crewsOf (.obj (namesFrom (.natural 3)))))] := by
    rintro ⟨a, b, element, h⟩
    cases h.type
  have hi : ¬ IsImage [("captain", .str "name"), ("crews", .obj (crewsOf (.obj (namesFrom (.natural 3)))))] := by
    intro h
    cases h
  have hcrews : Replaces crewPosition (.obj (namesFrom least)) (Place.root.field "crews")
      (.obj (crewsOf (.obj (namesFrom (.natural 3))))) (.obj (crewsOf (.obj (namesFrom least)))) :=
    .element (describesArray_crewsOf _) .here
  exact @Replaces.member _ _ _ [("captain", .str "name")] _ _ _ [] ha hi hcrews

theorem sizes_exact_spelled :
    Respells (namesFrom (.natural 3)) (namesFrom (.double three)) ∧
      Replaces crewPosition (.obj (namesFrom (.double three))) .root (shipOf (.natural 3)) (shipOf (.double three)) ∧
      shipOf (.double three) ≠ shipOf (.natural 3) ∧
      ofJson (shipOf (.double three)) = ofJson (shipOf (.natural 3)) := by
  have hs : Respells (namesFrom (.natural 3)) (namesFrom (.double three)) :=
    .sizes describesArray_namesFrom rfl value_three rfl
  have hr := replaces_shipOf (.double three)
  exact ⟨hs, hr, by decide, sizes_exact.2.2.2 _ _ _ _ _ hs hr⟩

end

end Specimen.Schema
