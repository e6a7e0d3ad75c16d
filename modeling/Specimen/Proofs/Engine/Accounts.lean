import Mathlib.Algebra.BigOperators.Group.List.Lemmas
import Mathlib.Algebra.GroupWithZero.Nat
import Specimen.Proofs.Engine.Budget

namespace Specimen

namespace SortedMap

def total (m : SortedMap UInt64) : Nat := (m.entries.map fun e => e.2.toNat).sum

end SortedMap

namespace Report

def countTags (tags : List String) (m : SortedMap UInt64) : SortedMap UInt64 :=
  tags.foldl (fun m tag => countTag tag m) m

lemma find?_countTags (tags : List String) (m : SortedMap UInt64) (tag : String) :
    (countTags tags m).find? tag =
      if tag ∈ tags then some ((m.find? tag).getD 0 + UInt64.ofNat (tags.count tag)) else m.find? tag := by
  induction tags generalizing m with
  | nil => rfl
  | cons t rest ih =>
    have hstep : countTags (t :: rest) m = countTags rest (countTag t m) := rfl
    rw [hstep, ih, find?_countTag]
    by_cases ht : tag = t
    · subst ht
      by_cases hr : tag ∈ rest
      · simp [hr, UInt64.add_assoc, UInt64.add_comm 1]
      · simp [hr, List.count_eq_zero_of_not_mem hr]
    · by_cases hr : tag ∈ rest
      · simp [ht, hr, Ne.symm ht]
      · simp [ht, hr]

lemma total_countTags {tags : List String} (h : tags.length < UInt64.size) :
    (countTags tags {}).total = tags.length := by
  let m := countTags tags {}
  have hfind (tag : String) : m.find? tag = if tag ∈ tags then some (UInt64.ofNat (tags.count tag)) else none := by
    have hempty : ({} : SortedMap UInt64).find? tag = none := rfl
    simpa [hempty] using find?_countTags tags {} tag
  have hmem (tag : String) : tag ∈ m.keys ↔ tag ∈ tags.dedup := by
    rw [SortedMap.mem_keys_iff, hfind, List.mem_dedup]
    split <;> simp_all
  have hvalue : ∀ e ∈ m.entries, e.2.toNat = tags.count e.1 := by
    intro e he
    have hf := (Entries.find?_of_mem m.nodup_keys he).symm.trans (hfind e.1)
    split at hf
    · rw [Option.some.inj hf]
      exact UInt64.toNat_ofNat_of_lt' (Nat.lt_of_le_of_lt List.count_le_length h)
    · cases hf
  have hperm : m.keys.Perm tags.dedup := (List.perm_ext_iff_of_nodup m.nodup_keys tags.nodup_dedup).2 hmem
  calc m.total = (m.keys.map tags.count).sum := by
        rw [SortedMap.total, SortedMap.keys, List.map_map]
        exact congrArg List.sum (List.map_congr_left hvalue)
    _ = (tags.dedup.map tags.count).sum := (hperm.map _).sum_eq
    _ = tags.length := List.sum_map_count_dedup_eq_length tags

end Report

namespace Schema

def tag? : Schema → Option String
  | .scalar tag => some tag
  | _ => none

def isImage : Schema → Bool
  | .image _ => true
  | _ => false

end Schema

def scalarTags (made : List (Schema × Json)) : List String := made.filterMap fun i => i.1.tag?

def imageCount (made : List (Schema × Json)) : Nat := made.countP fun i => i.1.isImage

@[simp] lemma scalarTags_cons (i : Schema × Json) (made : List (Schema × Json)) :
    scalarTags (i :: made) = i.1.tag?.toList ++ scalarTags made := by
  rw [scalarTags, List.filterMap_cons]
  cases i.1.tag? <;> rfl

@[simp] lemma imageCount_cons (i : Schema × Json) (made : List (Schema × Json)) :
    imageCount (i :: made) = imageCount made + if i.1.isImage then 1 else 0 := List.countP_cons

namespace Json

def isText (v : Json) : Bool := v.text?.isSome

mutual

lemma sum_arrayLength_lt : (v : Json) → (v.parts.map arrayLength).sum < v.parts.length
  | .arr items => by
    have := sum_arrayLength_items items
    simp only [parts, List.map_append, List.sum_append, List.length_append, List.map_cons, List.map_nil,
      List.sum_cons, List.sum_nil, List.length_singleton, arrayLength]
    omega
  | .obj members => by
    have := sum_arrayLength_members members
    simp only [parts, List.map_append, List.sum_append, List.length_append, List.map_cons, List.map_nil,
      List.sum_cons, List.sum_nil, List.length_singleton, arrayLength]
    omega
  | .null | .bool _ | .num _ | .str _ => by simp [parts, arrayLength]

lemma sum_arrayLength_items : (l : List Json) →
    ((partsOfItems l).map arrayLength).sum + l.length ≤ (partsOfItems l).length
  | [] => by simp [partsOfItems]
  | v :: r => by
    have := sum_arrayLength_lt v
    have := sum_arrayLength_items r
    simp only [partsOfItems, List.map_append, List.sum_append, List.length_append, List.length_cons]
    omega

lemma sum_arrayLength_members : (l : List (String × Json)) →
    ((partsOfMembers l).map arrayLength).sum ≤ (partsOfMembers l).length
  | [] => by simp [partsOfMembers]
  | (_, v) :: r => by
    have := sum_arrayLength_lt v
    have := sum_arrayLength_members r
    simp only [partsOfMembers, List.map_append, List.sum_append, List.length_append]
    omega

end

lemma sum_arrayLength_records_le (records : List Json) :
    ((records.flatMap parts).map arrayLength).sum ≤ (records.flatMap parts).length := by
  rw [← partsOfItems_eq]
  exact Nat.le_trans (Nat.le_add_right _ _) (sum_arrayLength_items records)

end Json

namespace Report

variable {σ : Type} (r : Registry σ) (made : List (Schema × Json)) (rep : Report)

lemma foldl_note : made.foldl (note r) rep = { rep with
    generatorUsage := countTags ((scalarTags made).filter r.knows) rep.generatorUsage
    fallbackCount := rep.fallbackCount + UInt64.ofNat ((scalarTags made).filter (!r.knows ·)).length
    fallbackTags := countTags ((scalarTags made).filter (!r.knows ·)) rep.fallbackTags
    imagesGenerated := rep.imagesGenerated + UInt64.ofNat (imageCount made)
    arrayElements := (made.foldl (note r) rep).arrayElements } := by
  -- elements are not added up here, as their sum could saturate
  induction made generalizing rep with
  | nil => simp [scalarTags, imageCount, countTags]
  | cons i rest ih =>
    obtain ⟨s, v⟩ := i
    rw [List.foldl_cons, ih]
    cases s with
    | scalar tag =>
      cases hk : r.knows tag with
      | true => simp [note, hk, Schema.tag?, Schema.isImage, recordUsage, countTags]
      | false =>
        simp [note, hk, Schema.tag?, Schema.isImage, recordFallback, countTags, UInt64.add_assoc, UInt64.add_comm 1]
    | image spec =>
      simp [note, Schema.tag?, Schema.isImage, recordImage, UInt64.add_assoc, UInt64.add_comm 1]
    | array minSize maxSize element => simp [note, Schema.tag?, Schema.isImage, recordArray]
    | object fields => simp [note, Schema.tag?, Schema.isImage]

lemma toNat_arrayElements_note {rep : Report} {i : Schema × Json} (hk : i.1.IsKindOf i.2)
    (h : rep.arrayElements.toNat + i.2.arrayLength < UInt64.size) :
    (rep.note r i).arrayElements.toNat = rep.arrayElements.toNat + i.2.arrayLength := by
  obtain ⟨s, v⟩ := i
  have hlen : (UInt64.ofNat v.arrayLength).toNat = v.arrayLength :=
    UInt64.toNat_ofNat_of_lt' (Nat.lt_of_le_of_lt (Nat.le_add_left _ _) h)
  cases s with
  | scalar tag =>
    rw [note]
    cases v <;> cases hk
    split <;> rfl
  | image spec => cases v <;> cases hk; rfl
  | object fields => cases v <;> cases hk; rfl
  | array minSize maxSize element =>
    rw [note, recordArray, toNat_addElements, hlen]
    exact Nat.min_eq_right (Nat.le_sub_one_of_lt h)

lemma toNat_arrayElements_foldl_note {rep : Report} (hk : ∀ i ∈ made, i.1.IsKindOf i.2)
    (h : rep.arrayElements.toNat + (made.map fun i => i.2.arrayLength).sum < UInt64.size) :
    (made.foldl (note r) rep).arrayElements.toNat =
      rep.arrayElements.toNat + (made.map fun i => i.2.arrayLength).sum := by
  induction made generalizing rep with
  | nil => simp
  | cons i rest ih =>
    obtain ⟨hi, hrest⟩ := List.forall_mem_cons.1 hk
    rw [List.map_cons, List.sum_cons] at h
    have hstep : (rep.note r i).arrayElements.toNat = rep.arrayElements.toNat + i.2.arrayLength :=
      toNat_arrayElements_note r hi (by omega)
    rw [List.foldl_cons, ih hrest (by omega), hstep, List.map_cons, List.sum_cons, Nat.add_assoc]

end Report

lemma isText_of_isKindOf {s : Schema} {v : Json} (h : s.IsKindOf v) :
    (if v.isText then 1 else 0) = s.tag?.toList.length + if s.isImage then 1 else 0 := by
  cases s with
  | scalar tag => cases v <;> cases h; rfl
  | image spec => cases v <;> cases h; rfl
  | object fields => cases v <;> cases h; rfl
  | array minSize maxSize element => cases v <;> cases h; rfl

lemma countP_isText {made : List (Schema × Json)} (h : ∀ i ∈ made, i.1.IsKindOf i.2) :
    (made.map Prod.snd).countP Json.isText = (scalarTags made).length + imageCount made := by
  induction made with
  | nil => rfl
  | cons i rest ih =>
    obtain ⟨hi, hrest⟩ := List.forall_mem_cons.1 h
    rw [List.map_cons, List.countP_cons, ih hrest, isText_of_isKindOf hi, scalarTags_cons, imageCount_cons,
      List.length_append]
    omega

structure Accounts {σ : Type} (r : Registry σ) (made : List (Schema × Json)) (values : List Json) (limit : UInt64)
    (rep : Report) : Prop where
  usage : ∀ tag, ((rep.generatorUsage.find? tag).getD 0).toNat =
    if r.knows tag then (scalarTags made).count tag else 0
  fallbackTags : ∀ tag, ((rep.fallbackTags.find? tag).getD 0).toNat =
    if r.knows tag then 0 else (scalarTags made).count tag
  disjoint : ∀ tag ∈ rep.generatorUsage.keys, tag ∉ rep.fallbackTags.keys
  positive : ∀ tag n, rep.generatorUsage.find? tag = some n ∨ rep.fallbackTags.find? tag = some n → 0 < n
  fallbackCount : rep.fallbackCount.toNat = rep.fallbackTags.total
  images : rep.imagesGenerated.toNat = imageCount made
  elements : rep.arrayElements.toNat = (values.map Json.arrayLength).sum
  texts : values.countP Json.isText =
    rep.generatorUsage.total + rep.fallbackCount.toNat + rep.imagesGenerated.toNat
  bounded : rep.generatorUsage.total + rep.fallbackCount.toNat + rep.imagesGenerated.toNat ≤ limit.toNat ∧
    rep.arrayElements.toNat ≤ limit.toNat

lemma find?_countTags_filter {tags : List String} (p : String → Bool) (h : tags.length < UInt64.size) (tag : String) :
    (((Report.countTags (tags.filter p) {}).find? tag).getD 0).toNat = if p tag then tags.count tag else 0 := by
  have hempty : ({} : SortedMap UInt64).find? tag = none := rfl
  have hcount : tags.count tag < UInt64.size := Nat.lt_of_le_of_lt List.count_le_length h
  rw [Report.find?_countTags, hempty]
  by_cases hp : p tag
  · by_cases ht : tag ∈ tags
    · simp [hp, ht, List.count_filter, UInt64.toNat_ofNat_of_lt' hcount]
    · simp [hp, ht, List.count_eq_zero_of_not_mem ht]
  · simp [hp]

lemma pos_of_find?_countTags {tags : List String} (h : tags.length < UInt64.size) {tag : String} {n : UInt64}
    (hn : (Report.countTags tags {}).find? tag = some n) : tag ∈ tags ∧ 0 < n := by
  have hempty : ({} : SortedMap UInt64).find? tag = none := rfl
  rw [Report.find?_countTags, hempty] at hn
  split at hn
  · rename_i ht
    have hcount : tags.count tag < UInt64.size := Nat.lt_of_le_of_lt List.count_le_length h
    have hpos : 0 < tags.count tag := List.count_pos_iff.2 ht
    have hval : n.toNat = tags.count tag := by
      rw [← Option.some.inj hn, Option.getD_none, UInt64.zero_add, UInt64.toNat_ofNat_of_lt' hcount]
    exact ⟨ht, UInt64.lt_iff_toNat_lt.2 (hval ▸ hpos)⟩
  · cases hn

section

variable {σ : Type} {r : Registry σ} {made : List (Schema × Json)} {values : List Json} {limit : UInt64}

lemma foldl_note_new (hk : ∀ i ∈ made, i.1.IsKindOf i.2) (htags : (scalarTags made).length < UInt64.size)
    (himages : imageCount made < UInt64.size) (hlengths : (made.map fun i => i.2.arrayLength).sum < UInt64.size)
    (runId : String) (count : UInt64) {rep : Report}
    (hrep : rep = made.foldl (Report.note r) (.new runId count)) :
    rep.generatorUsage = Report.countTags ((scalarTags made).filter r.knows) {} ∧
    rep.fallbackTags = Report.countTags ((scalarTags made).filter (!r.knows ·)) {} ∧
    rep.fallbackCount.toNat = ((scalarTags made).filter (!r.knows ·)).length ∧
    rep.imagesGenerated.toNat = imageCount made ∧
    rep.arrayElements.toNat = (made.map fun i => i.2.arrayLength).sum := by
  have hunknown : ((scalarTags made).filter (!r.knows ·)).length < UInt64.size :=
    Nat.lt_of_le_of_lt (List.length_filter_le _ _) htags
  have hfold := hrep.trans (Report.foldl_note r made (.new runId count))
  have hroom : (Report.new runId count).arrayElements.toNat + (made.map fun i => i.2.arrayLength).sum <
      UInt64.size := by
    change 0 + _ < _
    omega
  refine ⟨congrArg Report.generatorUsage hfold, congrArg Report.fallbackTags hfold, ?_, ?_, ?_⟩
  · rw [congrArg Report.fallbackCount hfold]
    change (0 + UInt64.ofNat _).toNat = _
    rw [UInt64.zero_add, UInt64.toNat_ofNat_of_lt' hunknown]
  · rw [congrArg Report.imagesGenerated hfold]
    change (0 + UInt64.ofNat _).toNat = _
    rw [UInt64.zero_add, UInt64.toNat_ofNat_of_lt' himages]
  · rw [hrep, Report.toNat_arrayElements_foldl_note r made hk hroom]
    exact Nat.zero_add _

lemma accounts_of_shows (hshows : Shows made values) (hvalues : values.length ≤ limit.toNat)
    (helements : (values.map Json.arrayLength).sum ≤ values.length) (runId : String) (count : UInt64) {rep : Report}
    (hrep : rep = made.foldl (Report.note r) (.new runId count)) : Accounts r made values limit rep := by
  -- each count is one of values, of which there are no more than the limit, so none leaves its 64 bits
  have hsize : limit.toNat < UInt64.size := limit.toNat_lt
  have htexts : values.countP Json.isText = (scalarTags made).length + imageCount made := by
    rw [← hshows.snd, countP_isText hshows.kinds]
  have hle : values.countP Json.isText ≤ values.length := List.countP_le_length
  have hsplit : (scalarTags made).length =
      ((scalarTags made).filter r.knows).length + ((scalarTags made).filter (!r.knows ·)).length := by
    simpa using List.length_eq_length_filter_add r.knows
  have hlengths : made.map (fun i => i.2.arrayLength) = values.map Json.arrayLength := by
    rw [← hshows.snd, List.map_map]
    rfl
  have htags : (scalarTags made).length < UInt64.size := by omega
  have hknown : ((scalarTags made).filter r.knows).length < UInt64.size := by omega
  have hunknown : ((scalarTags made).filter (!r.knows ·)).length < UInt64.size := by omega
  obtain ⟨husage, hfalls, hcount, himages, harrays⟩ :=
    foldl_note_new hshows.kinds htags (by omega) (by rw [hlengths]; omega) runId count hrep
  have hall : values.countP Json.isText =
      rep.generatorUsage.total + rep.fallbackCount.toNat + rep.imagesGenerated.toNat := by
    rw [husage, Report.total_countTags hknown, hcount, himages, htexts, hsplit]
  rw [hlengths] at harrays
  exact {
    usage := fun tag => by rw [husage, find?_countTags_filter r.knows htags]
    fallbackTags := fun tag => by
      rw [hfalls, find?_countTags_filter (!r.knows ·) htags]
      cases r.knows tag <;> rfl
    disjoint := fun tag hused hfell => by
      rw [SortedMap.mem_keys_iff, Option.ne_none_iff_exists'] at hused hfell
      obtain ⟨n, hn⟩ := hused
      obtain ⟨m, hm⟩ := hfell
      have hyes := (List.mem_filter.1 (pos_of_find?_countTags hknown (husage ▸ hn)).1).2
      have hno := (List.mem_filter.1 (pos_of_find?_countTags hunknown (hfalls ▸ hm)).1).2
      simp [hyes] at hno
    positive := fun tag n h => by
      rcases h with hn | hn
      · exact (pos_of_find?_countTags hknown (husage ▸ hn)).2
      · exact (pos_of_find?_countTags hunknown (hfalls ▸ hn)).2
    fallbackCount := by rw [hfalls, Report.total_countTags hunknown, hcount]
    images := himages
    elements := harrays
    texts := hall
    bounded := ⟨hall ▸ Nat.le_trans hle hvalues, harrays ▸ Nat.le_trans helements hvalues⟩ }

lemma Accounts.withRecords {rep : Report} (h : Accounts r made values limit rep) (n : UInt64) :
    Accounts r made values limit { rep with recordsGenerated := n } :=
  ⟨h.usage, h.fallbackTags, h.disjoint, h.positive, h.fallbackCount, h.images, h.elements, h.texts, h.bounded⟩

end

namespace Engine

variable {σ : Type} [WordSource σ]

theorem run_accounts (e : Engine σ) {schema : Schema} (hs : schema.Sized) (hd : schema.Distinct) (count : UInt64)
    (token : Option Bool) (runId : String) (source : σ) {records : Dataset}
    (h : (e.run schema count token runId source).outcome = .ok records) :
    (e.run schema count token runId source).report.recordsRequested = count ∧
    (e.run schema count token runId source).report.recordsGenerated = count ∧
    Accounts e.registry (records.flatMap schema.instances) (records.flatMap Json.parts) e.options.maxValues
      (e.run schema count token runId source).report := by
  obtain ⟨hstops, hvalue, hrun⟩ := run_of_ok hs h
  have hnotes := Tour.notes_records e.registry e.options.imageBaseUrl hd count.toNat
    (begin source (token.getD false) (.new runId count))
  have hshows := Tour.shows_records e.registry e.options.imageBaseUrl hd count.toNat
    (begin source (token.getD false) (.new runId count))
  have hmade : (e.outing schema count (token.getD false) runId source).nodes.length ≤ e.options.maxValues.toNat :=
    length_nodes_le hstops
  have hcount : records.length = count.toNat := hvalue ▸ Tour.length_gather _ _
  rw [length_nodes_of_distinct hd, hvalue] at hmade
  change Shows ((e.outing schema count (token.getD false) runId source).value.flatMap _)
    ((e.outing schema count (token.getD false) runId source).value.flatMap _) at hshows
  have hreport : (e.outing schema count (token.getD false) runId source).walk.report =
      (records.flatMap schema.instances).foldl (Report.note e.registry) (.new runId count) := by
    rw [← hvalue]
    exact hnotes.report
  rw [hvalue] at hshows
  rw [hrun]
  refine ⟨?_, ?_, ?_⟩
  · change (e.outing schema count (token.getD false) runId source).walk.report.recordsRequested = count
    rw [congrArg Report.recordsRequested (hreport.trans (Report.foldl_note _ _ _))]
    rfl
  · change UInt64.ofNat records.length = count
    rw [hcount, UInt64.ofNat_toNat]
  · exact (accounts_of_shows hshows hmade (Json.sum_arrayLength_records_le records) runId count hreport).withRecords _

section

def greetingEngine : Engine WordCycle :=
  ⟨{}, Registry.register ⟨{}, .ofText "word" (pure "filler")⟩ (.ofText "greeting" (pure "hello"))⟩

def greetingSchema : Schema :=
  .object [("a", .scalar "greeting"), ("b", .array 1 2 (.scalar "other")), ("c", .image {})]

theorem run_accounts_greeting : ∃ records : Dataset,
    (greetingEngine.run greetingSchema 2 (some false) "" ⟨#[0], 0⟩).outcome = .ok records ∧
    (greetingEngine.run greetingSchema 2 (some false) "" ⟨#[0], 0⟩).report.recordsRequested = 2 ∧
    (greetingEngine.run greetingSchema 2 (some false) "" ⟨#[0], 0⟩).report.recordsGenerated = 2 ∧
    Accounts greetingEngine.registry (records.flatMap greetingSchema.instances) (records.flatMap Json.parts)
      greetingEngine.options.maxValues (greetingEngine.run greetingSchema 2 (some false) "" ⟨#[0], 0⟩).report := by
  have hs : greetingSchema.Sized := by
    simp [greetingSchema, Schema.Everywhere, Schema.EverywhereIn, Schema.SizesOrdered]
  have hd : greetingSchema.Distinct := by
    simp [greetingSchema, Schema.Everywhere, Schema.EverywhereIn, Schema.NamesDistinct, Entries.keys]
  have hsome : (greetingEngine.run greetingSchema 2 (some false) "" ⟨#[0], 0⟩).outcome.toOption.isSome := by
    decide +kernel
  cases hr : (greetingEngine.run greetingSchema 2 (some false) "" ⟨#[0], 0⟩).outcome with
  | error fault => simp [hr, Except.toOption] at hsome
  | ok records => exact ⟨records, rfl, run_accounts greetingEngine hs hd 2 (some false) "" ⟨#[0], 0⟩ hr⟩

end

end Engine

end Specimen
