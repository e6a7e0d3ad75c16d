import Specimen.Proofs.Json.NumberTexts
import Specimen.Proofs.Schema.Sized

/-! Which schemas are read from some JSON value. -/

namespace Specimen

namespace Json

inductive NamesDistinct : Json → Prop
  | null : NamesDistinct .null
  | bool (b) : NamesDistinct (.bool b)
  | num (n) : NamesDistinct (.num n)
  | str (s) : NamesDistinct (.str s)
  | arr {items} : (∀ v ∈ items, NamesDistinct v) → NamesDistinct (.arr items)
  | obj {members} : (Entries.keys members).Nodup → (∀ e ∈ members, NamesDistinct e.2) → NamesDistinct (.obj members)

lemma head_of_compact {v : Json} (hs : ∀ s, v ≠ .str s) (hm : ∀ members, v ≠ .obj members) :
    ∃ c r, v.compact.toList = c :: r ∧ (c ∈ ['n', 't', 'f', '[', '-'] ∨ c.isDigit) := by
  rw [compact, String.toList_ofList]
  cases v with
  | null => exact ⟨'n', _, rfl, by simp⟩
  | bool b =>
    cases b
    · exact ⟨'f', _, rfl, by simp⟩
    · exact ⟨'t', _, rfl, by simp⟩
  | num n =>
    obtain ⟨c, r, hc, rfl | hd⟩ := head_of_text [] n
    · exact ⟨'-', r, hc, by simp⟩
    · exact ⟨c, r, hc, .inr hd⟩
  | str s => exact absurd rfl (hs s)
  | arr items => cases items <;> exact ⟨'[', _, rfl, by simp⟩
  | obj members => exact absurd rfl (hm members)

lemma compact_ne_empty {v : Json} (hs : ∀ s, v ≠ .str s) (hm : ∀ members, v ≠ .obj members) : v.compact ≠ "" := by
  obtain ⟨c, r, hc, -⟩ := head_of_compact hs hm
  intro h
  rw [h] at hc
  simp at hc

lemma compact_ne_image {v : Json} (hs : ∀ s, v ≠ .str s) (hm : ∀ members, v ≠ .obj members) :
    v.compact ≠ "image" := by
  obtain ⟨c, r, hc, hmem⟩ := head_of_compact hs hm
  intro h
  rw [h] at hc
  simp only [String.reduceToList, List.cons.injEq] at hc
  obtain ⟨rfl, -⟩ := hc
  revert hmem
  decide

end Json

namespace Schema

def Expressible : Schema → Prop
  | .scalar _ => True
  | .object fields => (Entries.keys fields).Nodup ∧ ("type", .scalar "image") ∉ fields
  | .array minSize maxSize element => minSize ≤ maxSize ∧ element ≠ .scalar ""
  | .image spec => 0 < spec.width ∧ 0 < spec.height

section sound

lemma keys_of_mirrorsEach {members : List (String × Json)} {fields : List (String × Schema)}
    (h : MirrorsEach members fields) : Entries.keys fields = Entries.keys members := by
  induction fields generalizing members with
  | nil =>
    cases h
    rfl
  | cons e fields ih =>
    cases h with
    | cons _ hr => exact congrArg (_ :: ·) (ih hr)

lemma exists_mem_of_mirrorsEach {members : List (String × Json)} {fields : List (String × Schema)} {name : String}
    {s : Schema} (h : MirrorsEach members fields) (hmem : (name, s) ∈ fields) :
    ∃ v, (name, v) ∈ members ∧ Mirrors v s := by
  induction fields generalizing members with
  | nil => cases hmem
  | cons e fields ih =>
    cases h with
    | @cons _ v _ members _ hv hr =>
      rcases List.mem_cons.1 hmem with he | hmem
      · cases he
        exact ⟨v, List.mem_cons_self, hv⟩
      · obtain ⟨w, hw, hs⟩ := ih hr hmem
        exact ⟨w, List.mem_cons_of_mem _ hw, hs⟩

lemma IsDimension.pos {v : Option Json} {d : UInt32} (h : IsDimension v d) : 0 < d := by
  rw [UInt32.lt_iff_toNat_lt]
  rcases h with ⟨n, -, hn, hd⟩ | ⟨rfl, -⟩
  · rw [hd]
    exact hn
  · decide

lemma mirrors_scalar_iff {v : Json} {tag : String} : Mirrors v (.scalar tag) ↔
    v = .str tag ∨ (∀ t, v ≠ .str t) ∧ (∀ members, v ≠ .obj members) ∧ v.compact = tag := by
  constructor
  · intro h
    generalize hs : Schema.scalar tag = s at h
    cases h with
    | text t => exact .inl (by rw [Schema.scalar.inj hs])
    | leaf ht hm => exact .inr ⟨ht, hm, (Schema.scalar.inj hs).symm⟩
    | array | image | record => cases hs
  · rintro (rfl | ⟨ht, hm, rfl⟩)
    · exact .text tag
    · exact .leaf ht hm

lemma element_ne_of_mirrors {element : Json} {t : Schema} (h : Mirrors element t) (hf : ¬ element.Falsy) :
    t ≠ .scalar "" := by
  rintro rfl
  rcases mirrors_scalar_iff.1 h with rfl | ⟨hs, hm, hc⟩
  · exact hf .str
  · exact Json.compact_ne_empty hs hm hc

lemma not_mem_of_mirrorsEach {members : List (String × Json)} {fields : List (String × Schema)}
    (h : MirrorsEach members fields) (hn : (Entries.keys members).Nodup) (hi : ¬ IsImage members) :
    ("type", .scalar "image") ∉ fields := by
  intro hmem
  obtain ⟨v, hv, hs⟩ := exists_mem_of_mirrorsEach h hmem
  rcases mirrors_scalar_iff.1 hs with rfl | ⟨ht, hm, hc⟩
  · exact hi (Entries.find?_of_mem hn hv)
  · exact Json.compact_ne_image ht hm hc

mutual

lemma everywhere_of_mirrors : (s : Schema) → {v : Json} → v.NamesDistinct → Mirrors v s → s.Sized →
    s.Everywhere Expressible
  | .scalar _, _, _, _, _ => trivial
  | .image _, _, _, h, _ => by
    cases h with
    | image hi => exact ⟨hi.width.pos, hi.height.pos⟩
  | .array _ _ t, _, hv, h, hsized => by
    cases h with
    | @array members _ _ element _ ha ht =>
      cases hv with
      | obj _ hmembers =>
        have helement : element.NamesDistinct := hmembers _ (Entries.mem_of_find? ha.schema)
        exact ⟨⟨hsized.1, element_ne_of_mirrors ht ha.truthy⟩, everywhere_of_mirrors t helement ht hsized.2⟩
  | .object fields, _, hv, h, hsized => by
    cases h with
    | record _ hi hf =>
      cases hv with
      | obj hn hmembers =>
        refine ⟨⟨?_, not_mem_of_mirrorsEach hf hn hi⟩, everywhereIn_of_mirrorsEach fields hmembers hf hsized.2⟩
        rw [keys_of_mirrorsEach hf]
        exact hn

lemma everywhereIn_of_mirrorsEach : (fields : List (String × Schema)) → {members : List (String × Json)} →
    (∀ e ∈ members, e.2.NamesDistinct) → MirrorsEach members fields → EverywhereIn SizesOrdered fields →
    EverywhereIn Expressible fields
  | [], _, _, _, _ => trivial
  | (_, s) :: fields, _, hv, h, hsized => by
    cases h with
    | cons hm hr =>
      obtain ⟨hv, hrest⟩ := List.forall_mem_cons.1 hv
      exact ⟨everywhere_of_mirrors s hv hm hsized.1, everywhereIn_of_mirrorsEach fields hrest hr hsized.2⟩

end

end sound

section complete

mutual

/-- A value that the schema mirrors. No text in it stands for anything but a scalar, an array or an image. -/
def spelled : Schema → Json
  | .scalar tag => .str tag
  | .object fields => .obj (spelledFields fields)
  | .array minSize maxSize element =>
    .obj [("type", .str "array"), ("size", .arr [.nat minSize, .nat maxSize]), ("schema", spelled element)]
  | .image spec =>
    .obj [("type", .str "image"), ("width", .nat spec.width.toUInt64), ("height", .nat spec.height.toUInt64),
      ("category", .str spec.category)]

def spelledFields : List (String × Schema) → List (String × Json)
  | [] => []
  | (name, s) :: r => (name, spelled s) :: spelledFields r

end

lemma keys_spelledFields (fields : List (String × Schema)) :
    Entries.keys (spelledFields fields) = Entries.keys fields := by
  induction fields with
  | nil => rfl
  | cons e r ih => exact congrArg (e.1 :: ·) ih

lemma find?_spelledFields (name : String) (fields : List (String × Schema)) :
    Entries.find? name (spelledFields fields) = (Entries.find? name fields).map spelled := by
  induction fields with
  | nil => rfl
  | cons e r ih =>
    obtain ⟨k, s⟩ := e
    rw [spelledFields, Entries.find?_cons, Entries.find?_cons, ih]
    split <;> rfl

lemma spelled_eq_str_iff {s : Schema} {t : String} : spelled s = .str t ↔ s = .scalar t := by
  cases s <;> simp [spelled]

lemma spelled_ne_arr (s : Schema) (items : List Json) : spelled s ≠ .arr items := by
  cases s <;> simp [spelled]

lemma not_isArray_spelledFields (fields : List (String × Schema)) : ¬ IsArray (spelledFields fields) := by
  rintro ⟨a, b, element, h⟩
  obtain ⟨m, n, hs, -⟩ := h.sizes
  rw [find?_spelledFields] at hs
  obtain ⟨s, -, hs⟩ := Option.map_eq_some_iff.1 hs
  exact spelled_ne_arr s _ hs

lemma not_isImage_spelledFields {fields : List (String × Schema)} (h : ("type", .scalar "image") ∉ fields) :
    ¬ IsImage (spelledFields fields) := by
  intro hi
  rw [IsImage, find?_spelledFields] at hi
  obtain ⟨s, hs, ht⟩ := Option.map_eq_some_iff.1 hi
  rw [spelled_eq_str_iff] at ht
  exact h (ht ▸ Entries.mem_of_find? hs)

lemma describesArray_spelled {minSize maxSize : UInt64} {element : Schema} (h : element ≠ .scalar "") :
    DescribesArray [("type", .str "array"), ("size", .arr [.nat minSize, .nat maxSize]), ("schema", spelled element)]
      minSize maxSize (spelled element) where
  type := rfl
  sizes := ⟨.natural minSize, .natural maxSize, rfl, rfl, rfl⟩
  schema := rfl
  truthy hf := by
    cases element with
    | scalar tag =>
      cases hf
      exact h rfl
    | object | array | image => cases hf

lemma isDimension_nat {d : UInt32} (h : 0 < d) : IsDimension (some (.nat d.toUInt64)) d :=
  .inl ⟨d.toUInt64, rfl, UInt32.lt_iff_toNat_lt.1 h, rfl⟩

lemma describesImage_spelled {spec : ImageSpec} (h : Expressible (.image spec)) :
    DescribesImage [("type", .str "image"), ("width", .nat spec.width.toUInt64),
      ("height", .nat spec.height.toUInt64), ("category", .str spec.category)] spec where
  type := rfl
  width := isDimension_nat h.1
  height := isDimension_nat h.2
  category := .inl rfl

mutual

lemma mirrors_spelled : (s : Schema) → s.Everywhere Expressible → Mirrors (spelled s) s
  | .scalar tag, _ => .text tag
  | .image _, h => .image (describesImage_spelled h)
  | .array _ _ t, h => .array (describesArray_spelled h.1.2) (mirrors_spelled t h.2)
  | .object fields, h =>
    .record (not_isArray_spelledFields fields) (not_isImage_spelledFields h.1.2) (mirrorsEach_spelledFields fields h.2)

lemma mirrorsEach_spelledFields : (fields : List (String × Schema)) → EverywhereIn Expressible fields →
    MirrorsEach (spelledFields fields) fields
  | [], _ => .nil
  | (_, s) :: fields, h => .cons (mirrors_spelled s h.1) (mirrorsEach_spelledFields fields h.2)

end

mutual

lemma namesDistinct_spelled : (s : Schema) → s.Everywhere Expressible → (spelled s).NamesDistinct
  | .scalar tag, _ => .str tag
  | .image _, _ => .obj (by simp [Entries.keys]) (by simp [Json.NamesDistinct.num, Json.NamesDistinct.str, Json.nat])
  | .array _ _ t, h => by
    have hsizes (n : UInt64) : (Json.nat n).NamesDistinct := .num _
    have ht := namesDistinct_spelled t h.2
    exact .obj (by simp [Entries.keys]) (by simp [Json.NamesDistinct.arr, Json.NamesDistinct.str, hsizes, ht])
  | .object fields, h => .obj (keys_spelledFields fields ▸ h.1.1) (namesDistinct_spelledFields fields h.2)

lemma namesDistinct_spelledFields : (fields : List (String × Schema)) → EverywhereIn Expressible fields →
    ∀ e ∈ spelledFields fields, e.2.NamesDistinct
  | [], _ => by simp [spelledFields]
  | (_, s) :: fields, h =>
    List.forall_mem_cons.2 ⟨namesDistinct_spelled s h.1, namesDistinct_spelledFields fields h.2⟩

end

lemma sizesOrdered_of_expressible : (s : Schema) → s.Expressible → s.SizesOrdered
  | .scalar _, _ | .image _, _ | .object _, _ => trivial
  | .array _ _ _, h => h.1

end complete

lemma exists_ofJson_iff {s : Schema} :
    (∃ v : Json, v.NamesDistinct ∧ ofJson v = .ok s) ↔ s.depth ≤ maxDepth ∧ s.Everywhere Expressible := by
  constructor
  · rintro ⟨v, hv, h⟩
    obtain ⟨hm, hdepth, hsized⟩ := ofJson_eq_ok_iff.1 h
    exact ⟨hdepth, everywhere_of_mirrors s hv hm hsized⟩
  · rintro ⟨hdepth, h⟩
    exact ⟨spelled s, namesDistinct_spelled s h,
      ofJson_eq_ok_iff.2 ⟨mirrors_spelled s h, hdepth, h.mono sizesOrdered_of_expressible s⟩⟩

lemma exists_ofJson_object_iff {fields : List (String × Schema)} :
    (∃ v : Json, v.NamesDistinct ∧ ofJson v = .ok (.object fields)) ↔
      (Entries.keys fields).Nodup ∧ ("type", .scalar "image") ∉ fields ∧
        ∀ e ∈ fields, e.2.depth ≤ 511 ∧ e.2.Everywhere Expressible := by
  have hdepth : 1 + depthFields fields ≤ maxDepth ↔ ∀ e ∈ fields, e.2.depth ≤ 511 := by
    rw [← depthFields_le_iff, maxDepth]
    omega
  have hnode : Everywhere Expressible (.object fields) ↔
      ((Entries.keys fields).Nodup ∧ ("type", .scalar "image") ∉ fields) ∧ EverywhereIn Expressible fields := Iff.rfl
  rw [exists_ofJson_iff, depth, hdepth, hnode, everywhereIn_iff]
  constructor
  · rintro ⟨hd, ⟨hn, himage⟩, he⟩
    exact ⟨hn, himage, fun e hmem => ⟨hd e hmem, he e hmem⟩⟩
  · rintro ⟨hn, himage, he⟩
    exact ⟨fun e hmem => (he e hmem).1, ⟨hn, himage⟩, fun e hmem => (he e hmem).2⟩

/-- A schema is read from some value if and only if it is not too deep and each of its nodes is expressible. Where
the field `type` of an object is the scalar `array`, the other fields may be any that are expressible themselves. -/
theorem exists_ofJson_eq_ok_iff (s : Schema) :
    ((∃ v : Json, v.NamesDistinct ∧ ofJson v = .ok s) ↔ s.depth ≤ 512 ∧ s.Everywhere Expressible) ∧
    ∀ before after : List (String × Schema),
      (∃ v : Json, v.NamesDistinct ∧ ofJson v = .ok (.object (before ++ ("type", .scalar "array") :: after))) ↔
        (Entries.keys (before ++ ("type", .scalar "array") :: after)).Nodup ∧
          ∀ e ∈ before ++ after, e.2.depth ≤ 511 ∧ e.2.Everywhere Expressible := by
  refine ⟨exists_ofJson_iff, fun before after => ?_⟩
  have hmem : ("type", Schema.scalar "array") ∈ before ++ ("type", .scalar "array") :: after := by simp
  have htype : (Schema.scalar "array").depth ≤ 511 ∧ Everywhere Expressible (.scalar "array") := ⟨by decide, trivial⟩
  rw [exists_ofJson_object_iff, List.forall_mem_append, List.forall_mem_cons, and_iff_right htype,
    ← List.forall_mem_append]
  refine and_congr_right fun hn => and_iff_right fun himage => ?_
  have := (Entries.find?_of_mem hn hmem).symm.trans (Entries.find?_of_mem hn himage)
  simp at this

end Schema

end Specimen
