import Specimen.Proofs.Entries
import Specimen.Proofs.Json.Numbers

/-! Which parts of a JSON value a schema is read from. The positions that are visited come in preorder. -/

namespace Specimen

namespace Schema

structure DescribesArray (members : List (String × Json)) (a b : UInt64) (element : Json) : Prop where
  type : Entries.find? "type" members = some (.str "array")
  sizes : ∃ m n : Json.Number, Entries.find? "size" members = some (.arr [.num m, .num n]) ∧
    m.value = a.toNat ∧ n.value = b.toNat
  schema : Entries.find? "schema" members = some element
  truthy : ¬ element.Falsy

def IsArray (members : List (String × Json)) : Prop := ∃ a b element, DescribesArray members a b element

def IsImage (members : List (String × Json)) : Prop := Entries.find? "type" members = some (.str "image")

instance (members : List (String × Json)) : Decidable (IsImage members) :=
  inferInstanceAs (Decidable (_ = _))

def IsDimension (v : Option Json) (d : UInt32) : Prop :=
  (∃ n : UInt64, v = some (.num (.natural n)) ∧ 0 < n.toNat ∧ d.toNat = n.toNat) ∨
    d = 200 ∧ ∀ n : UInt64, v = some (.num (.natural n)) → n.toNat = 0 ∨ 2 ^ 32 ≤ n.toNat

structure DescribesImage (members : List (String × Json)) (spec : ImageSpec) : Prop where
  type : IsImage members
  width : IsDimension (Entries.find? "width" members) spec.width
  height : IsDimension (Entries.find? "height" members) spec.height
  category : Entries.find? "category" members = some (.str spec.category) ∨
    spec.category = "" ∧ ∀ s, Entries.find? "category" members ≠ some (.str s)

section describe

variable {members : List (String × Json)} {a b a' b' : UInt64} {element element' : Json}

lemma DescribesArray.unique (h : DescribesArray members a b element) (h' : DescribesArray members a' b' element') :
    a = a' ∧ b = b' ∧ element = element' := by
  obtain ⟨m, n, hs, hm, hn⟩ := h.sizes
  obtain ⟨m', n', hs', hm', hn'⟩ := h'.sizes
  cases hs.symm.trans hs'
  cases h.schema.symm.trans h'.schema
  rw [hm, Nat.cast_inj, UInt64.toNat_inj] at hm'
  rw [hn, Nat.cast_inj, UInt64.toNat_inj] at hn'
  exact ⟨hm', hn', rfl⟩

lemma DescribesArray.not_isImage (h : DescribesArray members a b element) : ¬ IsImage members := by
  intro hi
  have := h.type.symm.trans hi
  simp at this

lemma isDimension_dimension (v : Option Json) : IsDimension v (dimension 200 v) := by
  rw [dimension]
  rcases v with _ | (_ | _ | (n | _ | _) | _ | _ | _)
  case some.num.natural =>
    by_cases h : 0 < n ∧ n.toNat < UInt32.size
    · refine .inl ⟨n, rfl, UInt64.lt_iff_toNat_lt.1 h.1, ?_⟩
      simp only [Option.bind_some, Json.natural?, if_pos h]
      exact Nat.mod_eq_of_lt h.2
    · refine .inr ⟨by simp only [Option.bind_some, Json.natural?, if_neg h], fun k hk => ?_⟩
      cases hk
      have hn : (0 : UInt64) < n ↔ 0 < n.toNat := UInt64.lt_iff_toNat_lt
      have hsize : UInt32.size = 2 ^ 32 := rfl
      rw [hn] at h
      omega
  all_goals exact .inr ⟨rfl, fun _ hk => by cases hk⟩

lemma IsDimension.unique {v : Option Json} {d d' : UInt32} (h : IsDimension v d) (h' : IsDimension v d') : d = d' := by
  have hlt := d.toNat_lt
  have hlt' := d'.toNat_lt
  rcases h with ⟨n, rfl, hpos, hd⟩ | ⟨rfl, hn⟩
  · rcases h' with ⟨n', he, -, hd'⟩ | ⟨-, hn'⟩
    · cases he
      exact UInt32.toNat_inj.1 (hd.trans hd'.symm)
    · have := hn' n rfl
      omega
  · rcases h' with ⟨n', rfl, hpos, hd'⟩ | ⟨rfl, -⟩
    · have := hn n' rfl
      omega
    · rfl

lemma DescribesImage.unique {spec spec' : ImageSpec} (h : DescribesImage members spec)
    (h' : DescribesImage members spec') : spec = spec' := by
  have hcategory : spec.category = spec'.category := by
    rcases h.category with hc | ⟨hc, hn⟩
    · rcases h'.category with hc' | ⟨-, hn'⟩
      · simpa using hc.symm.trans hc'
      · exact absurd hc (hn' _)
    · rcases h'.category with hc' | ⟨hc', -⟩
      · exact absurd hc' (hn _)
      · rw [hc, hc']
  cases spec
  cases spec'
  cases h.width.unique h'.width
  cases h.height.unique h'.height
  cases hcategory
  rfl

lemma describesImage_imageSpec (h : IsImage members) : DescribesImage members (imageSpec members) where
  type := h
  width := isDimension_dimension _
  height := isDimension_dimension _
  category := by
    simp only [imageSpec]
    rcases Entries.find? "category" members with _ | (_ | _ | _ | s | _ | _)
    case some.str => exact .inl rfl
    all_goals exact .inr ⟨rfl, by simp⟩

lemma arraySizes?_eq_some_iff : arraySizes? members = some (a, b) ↔ ∃ element,
    (∃ m n : Json.Number, Entries.find? "size" members = some (.arr [.num m, .num n]) ∧
      m.value = a.toNat ∧ n.value = b.toNat) ∧
    Entries.find? "schema" members = some element ∧ ¬ element.Falsy := by
  constructor
  · intro h
    rw [arraySizes?] at h
    split at h
    · rename_i least greatest element hs he
      split at h
      · rename_i ht
        split at h
        · rename_i ha hb
          cases h
          obtain ⟨m, rfl, hm⟩ := Json.whole?_eq_some_iff.1 ha
          obtain ⟨n, rfl, hn⟩ := Json.whole?_eq_some_iff.1 hb
          exact ⟨element, ⟨m, n, hs, hm, hn⟩, he, element.isTruthy_iff.1 ht⟩
        · cases h
      · cases h
    · cases h
  · rintro ⟨element, ⟨m, n, hs, hm, hn⟩, he, ht⟩
    have hm : (Json.num m).whole? = some a := Json.whole?_eq_some_iff.2 ⟨m, rfl, hm⟩
    have hn : (Json.num n).whole? = some b := Json.whole?_eq_some_iff.2 ⟨n, rfl, hn⟩
    simp only [arraySizes?, hs, he, if_pos (element.isTruthy_iff.2 ht), hm, hn]

lemma describe_eq_array_iff : describe members = .array a b ↔ ∃ element, DescribesArray members a b element := by
  constructor
  · intro h
    rw [describe] at h
    split at h
    · rename_i ht
      split at h
      · rename_i hs
        cases h
        obtain ⟨element, hsizes, he, htruthy⟩ := arraySizes?_eq_some_iff.1 hs
        exact ⟨element, ht, hsizes, he, htruthy⟩
      · cases h
    · cases h
    · cases h
  · rintro ⟨element, h⟩
    simp only [describe, h.type, arraySizes?_eq_some_iff.2 ⟨element, h.sizes, h.schema, h.truthy⟩]

lemma describe_of_isImage (h : IsImage members) : describe members = .image (imageSpec members) := by
  simp only [describe, show Entries.find? "type" members = some (.str "image") from h]

lemma describe_of_record (ha : ¬ IsArray members) (hi : ¬ IsImage members) : describe members = .record := by
  cases h : describe members with
  | array a b => exact absurd ⟨a, b, describe_eq_array_iff.1 h⟩ ha
  | image spec =>
    rw [describe] at h
    split at h
    · split at h <;> cases h
    · rename_i ht
      exact absurd ht hi
    · cases h
  | record => rfl

instance (members : List (String × Json)) : Decidable (IsArray members) :=
  match h : describe members with
  | .array a b => isTrue ⟨a, b, describe_eq_array_iff.1 h⟩
  | .image _ => isFalse fun ⟨_, _, ha⟩ => by cases (describe_eq_array_iff.2 ha).symm.trans h
  | .record => isFalse fun ⟨_, _, ha⟩ => by cases (describe_eq_array_iff.2 ha).symm.trans h

end describe

structure Place where
  path : Path
  text : String
  depth : Nat

namespace Place

def root : Place := ⟨[], "schema", 1⟩

def field (p : Place) (name : String) : Place := ⟨.field name :: p.path, p.text ++ "." ++ name, p.depth + 1⟩

def element (p : Place) : Place := ⟨.element :: p.path, p.text ++ "[]", p.depth + 1⟩

def Agrees (p : Place) : Prop := p.path.text = p.text ∧ p.path.level = p.depth

lemma Agrees.field {p : Place} (h : p.Agrees) (name : String) : (p.field name).Agrees := by
  obtain ⟨htext, hlevel⟩ := h
  exact ⟨by rw [Place.field, Path.text, htext], congrArg (· + 1) hlevel⟩

lemma Agrees.element {p : Place} (h : p.Agrees) : p.element.Agrees := by
  obtain ⟨htext, hlevel⟩ := h
  exact ⟨by rw [Place.element, Path.text, htext], congrArg (· + 1) hlevel⟩

end Place

structure Position where
  place : Place
  value : Json

mutual

/-- The visited positions of a value, in preorder. -/
def visited (p : Place) : Json → List Position
  | .obj members =>
    ⟨p, .obj members⟩ ::
      if IsArray members then visitedElement p.element members
      else if IsImage members then []
      else visitedMembers p members
  | v => [⟨p, v⟩]

def visitedMembers (p : Place) : List (String × Json) → List Position
  | [] => []
  | (name, v) :: rest => visited (p.field name) v ++ visitedMembers p rest

def visitedElement (p : Place) : List (String × Json) → List Position
  | [] => []
  | (name, v) :: rest => if name = "schema" then visited p v else visitedElement p rest

end

namespace Position

def TooDeep (p : Position) : Prop := 512 < p.place.depth

def Inverted (p : Position) (a b : UInt64) : Prop :=
  ∃ members element, p.value = .obj members ∧ DescribesArray members a b element ∧ b < a

inductive Fault (p : Position) : SchemaError → Prop
  | tooDeep : p.TooDeep → Fault p (.tooDeep p.place.path)
  | inverted {a b} : ¬ p.TooDeep → p.Inverted a b → Fault p (.sizesInverted p.place.path a b)

def Sound (p : Position) : Prop := ∀ e, ¬ p.Fault e

variable {p : Position} {e e' : SchemaError}

lemma sound_iff : p.Sound ↔ ¬ p.TooDeep ∧ ∀ a b, ¬ p.Inverted a b := by
  constructor
  · intro h
    have hd : ¬ p.TooDeep := fun hd => h _ (.tooDeep hd)
    exact ⟨hd, fun a b hi => h _ (.inverted hd hi)⟩
  · rintro ⟨hd, hi⟩ e he
    cases he with
    | tooDeep hd' => exact hd hd'
    | inverted _ hi' => exact hi _ _ hi'

lemma Fault.unique (h : p.Fault e) (h' : p.Fault e') : e = e' := by
  cases h with
  | tooDeep hd =>
    cases h' with
    | tooDeep => rfl
    | inverted hn => exact absurd hd hn
  | inverted hn hi =>
    cases h' with
    | tooDeep hd => exact absurd hd hn
    | inverted _ hi' =>
      obtain ⟨members, element, hv, ha, -⟩ := hi
      obtain ⟨members', element', hv', ha', -⟩ := hi'
      cases hv.symm.trans hv'
      obtain ⟨rfl, rfl, -⟩ := ha.unique ha'
      rfl

end Position

def FirstFault (l : List Position) (e : SchemaError) : Prop :=
  ∃ before p after, l = before ++ p :: after ∧ (∀ q ∈ before, q.Sound) ∧ p.Fault e

section firstFault

variable {l m : List Position} {p : Position} {e e' : SchemaError}

lemma not_firstFault (h : ∀ q ∈ l, q.Sound) : ¬ FirstFault l e := by
  rintro ⟨before, p, after, rfl, -, hp⟩
  exact h p (by simp) e hp

lemma firstFault_cons_iff_of_fault (h : p.Fault e) : FirstFault (p :: l) e' ↔ e' = e := by
  constructor
  · rintro ⟨_ | ⟨q, before⟩, r, after, hl, hb, hr⟩
    · cases hl
      exact hr.unique h
    · cases hl
      exact absurd h (hb p List.mem_cons_self e)
  · rintro rfl
    exact ⟨[], p, l, rfl, by simp, h⟩

lemma firstFault_cons_iff_of_sound (h : p.Sound) : FirstFault (p :: l) e ↔ FirstFault l e := by
  constructor
  · rintro ⟨_ | ⟨q, before⟩, r, after, hl, hb, hr⟩
    · cases hl
      exact absurd hr (h e)
    · cases hl
      exact ⟨before, r, after, rfl, fun q hq => hb q (List.mem_cons_of_mem _ hq), hr⟩
  · rintro ⟨before, r, after, rfl, hb, hr⟩
    exact ⟨p :: before, r, after, rfl, List.forall_mem_cons.2 ⟨h, hb⟩, hr⟩

lemma firstFault_append_iff (h : ∀ q ∈ l, q.Sound) : FirstFault (l ++ m) e ↔ FirstFault m e := by
  induction l with
  | nil => rfl
  | cons q r ih =>
    obtain ⟨hq, hr⟩ := List.forall_mem_cons.1 h
    rw [List.cons_append, firstFault_cons_iff_of_sound hq, ih hr]

lemma FirstFault.append (h : FirstFault l e) (m : List Position) : FirstFault (l ++ m) e := by
  obtain ⟨before, p, after, rfl, hb, hp⟩ := h
  exact ⟨before, p, after ++ m, by simp, hb, hp⟩

lemma FirstFault.unique (h : FirstFault l e) (h' : FirstFault l e') : e = e' := by
  induction l with
  | nil =>
    obtain ⟨before, p, after, hl, -⟩ := h
    simp at hl
  | cons q r ih =>
    by_cases hq : q.Sound
    · exact ih ((firstFault_cons_iff_of_sound hq).1 h) ((firstFault_cons_iff_of_sound hq).1 h')
    · obtain ⟨f, hf⟩ := not_forall_not.1 hq
      rw [(firstFault_cons_iff_of_fault hf).1 h, (firstFault_cons_iff_of_fault hf).1 h']

lemma exists_firstFault_iff : (∃ e, FirstFault l e) ↔ ∃ p ∈ l, ¬ p.Sound := by
  constructor
  · rintro ⟨e, before, p, after, rfl, -, hp⟩
    exact ⟨p, by simp, fun h => h e hp⟩
  · rintro ⟨p, hp, hn⟩
    induction l with
    | nil => cases hp
    | cons q r ih =>
      by_cases hq : q.Sound
      · have hr : p ∈ r := by
          rcases List.mem_cons.1 hp with rfl | hr
          · exact absurd hq hn
          · exact hr
        obtain ⟨e, he⟩ := ih hr
        exact ⟨e, (firstFault_cons_iff_of_sound hq).2 he⟩
      · obtain ⟨f, hf⟩ := not_forall_not.1 hq
        exact ⟨f, (firstFault_cons_iff_of_fault hf).2 rfl⟩

end firstFault

mutual

/-- The schema has a node for each visited position of the value. -/
inductive Mirrors : Json → Schema → Prop
  | text (s : String) : Mirrors (.str s) (.scalar s)
  | leaf {v : Json} : (∀ s, v ≠ .str s) → (∀ members, v ≠ .obj members) → Mirrors v (.scalar v.compact)
  | array {members a b element s} : DescribesArray members a b element → Mirrors element s →
      Mirrors (.obj members) (.array a b s)
  | image {members spec} : DescribesImage members spec → Mirrors (.obj members) (.image spec)
  | record {members fields} : ¬ IsArray members → ¬ IsImage members → MirrorsEach members fields →
      Mirrors (.obj members) (.object fields)

inductive MirrorsEach : List (String × Json) → List (String × Schema) → Prop
  | nil : MirrorsEach [] []
  | cons {name v s members fields} : Mirrors v s → MirrorsEach members fields →
      MirrorsEach ((name, v) :: members) ((name, s) :: fields)

end

structure Reads {α : Type} (x : Except SchemaError α) (l : List Position) (M : α → Prop) : Prop where
  error : ∀ e, x = .error e ↔ FirstFault l e
  ok : ∀ a, x = .ok a ↔ (∀ p ∈ l, p.Sound) ∧ M a

namespace Reads

variable {α β : Type} {x : Except SchemaError α} {l m : List Position} {M : α → Prop} {N : β → Prop}
    {p : Position} {e : SchemaError}

lemma of_fault (h : p.Fault e) : Reads (.error e) (p :: l) M where
  error f := by rw [firstFault_cons_iff_of_fault h, Except.error.injEq, eq_comm]
  ok a := ⟨fun h => (by cases h), fun hl => absurd h (hl.1 p List.mem_cons_self e)⟩

lemma of_sound (h : p.Sound) (hx : Reads x l M) : Reads x (p :: l) M where
  error f := by rw [firstFault_cons_iff_of_sound h, hx.error]
  ok a := by rw [hx.ok, List.forall_mem_cons, and_iff_right h]

lemma pure {a : α} (h : ∀ b, M b ↔ b = a) : Reads (.ok a) [] M where
  error f := ⟨fun h => (by cases h), fun hf => absurd hf (not_firstFault (by simp))⟩
  ok b := by simp [h, eq_comm]

lemma map {f : α → β} (hx : Reads x l M) (h : ∀ b, N b ↔ ∃ a, M a ∧ f a = b) : Reads (x.map f) l N where
  error e := by
    rw [← hx.error]
    cases x <;> simp [Except.map]
  ok b := by
    have hsound : (∀ p ∈ l, p.Sound) ∧ N b ↔ ∃ a, x = .ok a ∧ f a = b := by
      simp only [hx.ok, h, and_assoc, exists_and_left]
    rw [hsound]
    cases x <;> simp [Except.map]

lemma both {γ : Type} {K : γ → Prop} {y : Except SchemaError β} {f : α → β → γ} (hx : Reads x l M)
    (hy : Reads y m N) (h : ∀ c, K c ↔ ∃ a b, M a ∧ N b ∧ f a b = c) :
    Reads (x.bind fun a => y.map (f a)) (l ++ m) K := by
  cases x with
  | error e =>
    have he : FirstFault l e := (hx.error e).1 rfl
    refine ⟨fun e' => ⟨fun heq => ?_, fun he' => ?_⟩, fun c => ⟨fun heq => (by cases heq), fun hc => ?_⟩⟩
    · cases heq
      exact he.append m
    · rw [(he.append m).unique he']
      rfl
    · exact absurd (he.append m) (not_firstFault hc.1)
  | ok a =>
    obtain ⟨hl, ha⟩ := (hx.ok a).1 rfl
    have honly (a' : α) (ha' : M a') : a' = a := by
      cases (hx.ok a').2 ⟨hl, ha'⟩
      rfl
    have hmap : Reads (y.map (f a)) m K := hy.map fun c => by
      rw [h]
      constructor
      · rintro ⟨a', b, ha', hb, rfl⟩
        rw [honly a' ha']
        exact ⟨b, hb, rfl⟩
      · rintro ⟨b, hb, rfl⟩
        exact ⟨a, b, ha, hb, rfl⟩
    refine ⟨fun e => ?_, fun c => ?_⟩
    · rw [firstFault_append_iff hl]
      exact hmap.error e
    · rw [List.forall_mem_append, and_iff_right hl]
      exact hmap.ok c

end Reads

section mirrors

variable {v : Json} {s : Schema} {members : List (String × Json)}

lemma mirrors_leaf_iff (hs : ∀ t, v ≠ .str t) (hm : ∀ members, v ≠ .obj members) :
    Mirrors v s ↔ s = .scalar v.compact := by
  constructor
  · intro h
    cases h with
    | text t => exact absurd rfl (hs t)
    | leaf => rfl
    | array | image | record => exact absurd rfl (hm _)
  · rintro rfl
    exact .leaf hs hm

lemma mirrors_str_iff {t : String} : Mirrors (.str t) s ↔ s = .scalar t := by
  constructor
  · intro h
    cases h with
    | text => rfl
    | leaf hs => exact absurd rfl (hs t)
  · rintro rfl
    exact .text t

lemma mirrors_array_iff {a b : UInt64} {element : Json} (h : DescribesArray members a b element) :
    Mirrors (.obj members) s ↔ ∃ t, Mirrors element t ∧ .array a b t = s := by
  constructor
  · intro hm
    cases hm with
    | leaf _ hm => exact absurd rfl (hm members)
    | array h' hm =>
      obtain ⟨rfl, rfl, rfl⟩ := h.unique h'
      exact ⟨_, hm, rfl⟩
    | image hi => exact absurd hi.type h.not_isImage
    | record ha => exact absurd ⟨_, _, _, h⟩ ha
  · rintro ⟨t, ht, rfl⟩
    exact .array h ht

lemma mirrors_image_iff (h : IsImage members) : Mirrors (.obj members) s ↔ s = .image (imageSpec members) := by
  constructor
  · intro hm
    cases hm with
    | leaf _ hm => exact absurd rfl (hm members)
    | array ha => exact absurd h ha.not_isImage
    | image hi => rw [hi.unique (describesImage_imageSpec h)]
    | record _ hi => exact absurd h hi
  · rintro rfl
    exact .image (describesImage_imageSpec h)

lemma mirrors_record_iff (ha : ¬ IsArray members) (hi : ¬ IsImage members) :
    Mirrors (.obj members) s ↔ ∃ fields, MirrorsEach members fields ∧ .object fields = s := by
  constructor
  · intro hm
    cases hm with
    | leaf _ hm => exact absurd rfl (hm members)
    | array ha' => exact absurd ⟨_, _, _, ha'⟩ ha
    | image hi' => exact absurd hi'.type hi
    | record _ _ hf => exact ⟨_, hf, rfl⟩
  · rintro ⟨fields, hf, rfl⟩
    exact .record ha hi hf

lemma mirrorsEach_nil_iff {fields : List (String × Schema)} : MirrorsEach [] fields ↔ fields = [] :=
  ⟨fun h => (by cases h; rfl), fun h => h ▸ .nil⟩

lemma mirrorsEach_cons_iff {name : String} {fields : List (String × Schema)} :
    MirrorsEach ((name, v) :: members) fields ↔
      ∃ s rest, Mirrors v s ∧ MirrorsEach members rest ∧ (name, s) :: rest = fields := by
  constructor
  · intro h
    cases h with
    | cons hv hr => exact ⟨_, _, hv, hr, rfl⟩
  · rintro ⟨s, rest, hv, hr, rfl⟩
    exact .cons hv hr

end mirrors

section normalize

lemma Place.Agrees.tooDeep_iff {p : Place} (hp : p.Agrees) (v : Json) :
    (Position.mk p v).TooDeep ↔ maxDepth < p.path.level := by
  rw [hp.2]
  rfl

lemma reads_leaf {p : Place} (hp : p.Agrees) {v : Json} {s : Schema} (h : ∀ t, Mirrors v t ↔ t = s)
    (hv : ∀ members, v ≠ .obj members) :
    Reads (if maxDepth < p.path.level then .error (.tooDeep p.path) else .ok s) [⟨p, v⟩] (Mirrors v) := by
  by_cases hdeep : (Position.mk p v).TooDeep
  · rw [if_pos ((hp.tooDeep_iff v).1 hdeep)]
    exact .of_fault (.tooDeep hdeep)
  · rw [if_neg (mt (hp.tooDeep_iff v).2 hdeep)]
    refine .of_sound (Position.sound_iff.2 ⟨hdeep, fun a b => ?_⟩) (.pure h)
    rintro ⟨members, element, hm, -⟩
    exact hv members hm

lemma normalizeFields_cons (path : Path) (name : String) (v : Json) (rest : List (String × Json)) :
    normalizeFields path ((name, v) :: rest) =
      (normalize (.field name :: path) v).bind fun s => (normalizeFields path rest).map ((name, s) :: ·) := by
  rw [normalizeFields]
  cases normalize (.field name :: path) v <;> rfl

mutual

lemma reads_normalize {p : Place} (hp : p.Agrees) : (v : Json) → Reads (normalize p.path v) (visited p v) (Mirrors v)
  | .str tag => by
    rw [normalize, visited]
    · exact reads_leaf hp (fun t => mirrors_str_iff) (by simp)
    · simp
  | .obj members => by
    rw [normalize, visited]
    by_cases hdeep : (Position.mk p (.obj members)).TooDeep
    · rw [if_pos ((hp.tooDeep_iff _).1 hdeep)]
      exact .of_fault (.tooDeep hdeep)
    rw [if_neg (mt (hp.tooDeep_iff _).2 hdeep)]
    by_cases ha : IsArray members
    · obtain ⟨a, b, element, h⟩ := ha
      simp only [describe_eq_array_iff.2 ⟨element, h⟩, if_pos (show IsArray members from ⟨a, b, element, h⟩)]
      by_cases hlt : b < a
      · rw [if_pos hlt]
        exact .of_fault (.inverted hdeep ⟨members, element, rfl, h, hlt⟩)
      · rw [if_neg hlt]
        refine .of_sound (Position.sound_iff.2 ⟨hdeep, fun a' b' => ?_⟩)
          ((reads_normalizeElement hp.element members h.schema).map fun s => mirrors_array_iff h)
        rintro ⟨_, element', hm, h', hlt'⟩
        cases hm
        obtain ⟨rfl, rfl, -⟩ := h.unique h'
        exact hlt hlt'
    have hsound : (Position.mk p (.obj members)).Sound := by
      refine Position.sound_iff.2 ⟨hdeep, fun a b => ?_⟩
      rintro ⟨_, element, hm, h, -⟩
      cases hm
      exact ha ⟨a, b, element, h⟩
    rw [if_neg ha]
    by_cases hi : IsImage members
    · simp only [describe_of_isImage hi, if_pos hi]
      exact .of_sound hsound (.pure fun s => mirrors_image_iff hi)
    · simp only [describe_of_record ha hi, if_neg hi]
      exact .of_sound hsound ((reads_normalizeFields hp members).map fun s => mirrors_record_iff ha hi)
  | .null | .bool _ | .num _ | .arr _ => by
    unfold normalize visited
    exact reads_leaf hp (fun t => mirrors_leaf_iff (by simp) (by simp)) (by simp)

lemma reads_normalizeFields {p : Place} (hp : p.Agrees) : (l : List (String × Json)) →
    Reads (normalizeFields p.path l) (visitedMembers p l) (MirrorsEach l)
  | [] => by
    rw [normalizeFields, visitedMembers]
    exact .pure fun fields => mirrorsEach_nil_iff
  | (name, v) :: rest => by
    rw [normalizeFields_cons, visitedMembers]
    exact (reads_normalize (hp.field name) v).both (reads_normalizeFields hp rest) fun fields => mirrorsEach_cons_iff

lemma reads_normalizeElement {p : Place} (hp : p.Agrees) {element : Json} : (l : List (String × Json)) →
    Entries.find? "schema" l = some element →
    Reads (normalizeElement p.path l) (visitedElement p l) (Mirrors element)
  | [], h => by cases h
  | (name, v) :: rest, h => by
    rw [normalizeElement, visitedElement]
    rw [Entries.find?_cons] at h
    by_cases hname : name = "schema"
    · rw [if_pos hname.symm, Option.some.injEq] at h
      rw [if_pos hname, if_pos hname, ← h]
      exact reads_normalize hp v
    · rw [if_neg (Ne.symm hname)] at h
      rw [if_neg hname, if_neg hname]
      exact reads_normalizeElement hp rest h

end

mutual

lemma agrees_of_mem_visited {p : Place} (hp : p.Agrees) : (v : Json) → ∀ q ∈ visited p v, q.place.Agrees
  | .obj members => by
    rw [visited]
    refine List.forall_mem_cons.2 ⟨hp, ?_⟩
    split
    · exact agrees_of_mem_visitedElement hp.element members
    · split
      · simp
      · exact agrees_of_mem_visitedMembers hp members
  | .null | .bool _ | .num _ | .str _ | .arr _ => by
    unfold visited
    exact List.forall_mem_singleton.2 hp

lemma agrees_of_mem_visitedMembers {p : Place} (hp : p.Agrees) : (l : List (String × Json)) →
    ∀ q ∈ visitedMembers p l, q.place.Agrees
  | [] => by simp [visitedMembers]
  | (name, v) :: rest => by
    rw [visitedMembers]
    exact List.forall_mem_append.2
      ⟨agrees_of_mem_visited (hp.field name) v, agrees_of_mem_visitedMembers hp rest⟩

lemma agrees_of_mem_visitedElement {p : Place} (hp : p.Agrees) : (l : List (String × Json)) →
    ∀ q ∈ visitedElement p l, q.place.Agrees
  | [] => by simp [visitedElement]
  | (name, v) :: rest => by
    rw [visitedElement]
    split
    · exact agrees_of_mem_visited hp v
    · exact agrees_of_mem_visitedElement hp rest

end

end normalize

/-- A value is refused for the first of its visited positions that is at fault, and without one it is read as the
schema that mirrors it. -/
theorem ofJson_visited (v : Json) :
    ((∃ e, ofJson v = .error e) ↔
      ∃ p ∈ visited .root v, p.TooDeep ∨ ∃ a b, p.Inverted a b) ∧
    (∀ e, ofJson v = .error e ↔ FirstFault (visited .root v) e) ∧
    (∀ s, ofJson v = .ok s ↔ (∀ p ∈ visited .root v, p.Sound) ∧ Mirrors v s) ∧
    ∀ p ∈ visited .root v, p.place.path.text = p.place.text := by
  have hroot : Place.root.Agrees := ⟨rfl, rfl⟩
  have hv : Reads (ofJson v) (visited .root v) (Mirrors v) := reads_normalize hroot v
  refine ⟨?_, hv.error, hv.ok, fun p hp => (agrees_of_mem_visited hroot v p hp).1⟩
  simp only [hv.error, exists_firstFault_iff, Position.sound_iff, not_and_or, not_forall, not_not]

end Schema

end Specimen
