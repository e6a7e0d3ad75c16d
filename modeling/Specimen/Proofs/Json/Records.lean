import Specimen.Envelope
import Specimen.Proofs.Json.RoundTrip

namespace Specimen

namespace Json

open Reading

namespace Shape

def Within (levels : Nat) : (shape : Shape) → shape.Carrier → Prop
  | .any, v => v.nesting ≤ levels
  | .optional, o => ∀ v ∈ o, v.nesting ≤ levels
  | .list element, l => ∀ a ∈ l, element.Within (levels - 1) a
  | .text, _ | .natural, _ | .tally, _ => True

lemma gives_read_list_iff {element : Shape} {levels : Nat} {s rest : List Char} {l : List element.Carrier} :
    Gives (read (.list element) (levels + 1) s) l rest ↔
      ∃ r, skipBlanks s = '[' :: r ∧ (sequence (element.read levels) r).Gives l rest := by
  rw [read]
  dsimp only
  split
  · rename_i hb
    simp [hb]
  · rename_i c r n hb hn
    cases hn
    by_cases hc : c = '['
    · subst hc
      simp [hb, gives_widen_iff]
    · simp [hb, hc]
  · rename_i hn
    cases hn

lemma not_gives_read_list {element : Shape} {s rest : List Char} {l : List element.Carrier} :
    ¬ Gives (read (.list element) 0 s) l rest := by
  rw [read]
  dsimp only
  split <;> simp_all

lemma within_of_read {shape : Shape} {levels : Nat} {s rest : List Char} {a : shape.Carrier}
    (h : Gives (shape.read levels s) a rest) : shape.Within levels a := by
  induction shape generalizing levels s rest with
  | any => exact nesting_le_of_value h
  | optional =>
    rw [read] at h
    obtain ⟨v, hv, rfl⟩ := gives_map_iff.1 h
    intro w hw
    split at hw
    · cases hw
    · cases hw
      exact nesting_le_of_value hv
  | text | natural | tally => trivial
  | list element ih =>
    cases levels with
    | zero => exact absurd h not_gives_read_list
    | succ levels =>
      obtain ⟨r, -, hl⟩ := gives_read_list_iff.1 h
      exact forall_mem_sequence (fun _ _ _ ha => ih ha) hl

lemma within_of_absent {shape : Shape} {levels : Nat} {a : shape.Carrier} (h : shape.absent? = some a) :
    shape.Within levels a := by
  cases shape with
  | optional =>
    cases h
    intro v hv
    cases hv
  | any | text | natural | list | tally => cases h

end Shape

namespace Slots

def Within (levels : Nat) : (fields : List Field) → Slots fields → Prop
  | [], () => True
  | f :: fs, (v, vs) => f.shape.Within levels v ∧ Within levels fs vs

lemma within_of_absent {levels : Nat} {fields : List Field} {vs : Slots fields}
    (h : absent? fields = .ok vs) :
    Within levels fields vs := by
  induction fields with
  | nil => trivial
  | cons f fs ih =>
    rw [absent?] at h
    split at h
    · rename_i v rest hv hrest
      cases h
      exact ⟨Shape.within_of_absent hv, ih hrest⟩
    · cases h

lemma within_of_positional {levels : Nat} {fields : List Field} {first : Bool} {s rest : List Char}
    {vs : Slots fields}
    (h : (positional levels fields first s).Gives vs rest) : Within levels fields vs := by
  induction fields generalizing first s rest with
  | nil => trivial
  | cons f fs ih =>
    rw [positional] at h
    dsimp -zeta only at h
    split at h
    · exact absurd h not_gives_error
    · rename_i c r hs
      extract_lets hr start hstart at h
      split at h
      · cases ha : absent? (f :: fs) with
        | error e => exact absurd (ha ▸ h) not_gives_error
        | ok ws =>
          obtain ⟨rfl, -⟩ := gives_ok_iff.1 (ha ▸ h : Gives (.ok (ws, ⟨r, _⟩)) vs rest)
          exact within_of_absent ha
      · split at h
        · exact absurd h not_gives_error
        · split at h
          · exact absurd h not_gives_error
          · split at h
            · exact absurd h not_gives_error
            · rename_i v t ht hv
              obtain ⟨ws, hws, rfl⟩ := gives_map_iff.1 (gives_widen_iff.1 h)
              exact ⟨Shape.within_of_read (gives_of_eq hv), ih hws⟩

end Slots

namespace Filled

def Within (levels : Nat) : (fields : List Field) → Filled fields → Prop
  | [], () => True
  | f :: fs, (o, rest) => (∀ v ∈ o, f.shape.Within levels v) ∧ Within levels fs rest

lemma within_empty (levels : Nat) (fields : List Field) : Within levels fields (empty fields) := by
  induction fields with
  | nil => trivial
  | cons f fs ih =>
    refine ⟨?_, ih⟩
    intro v hv
    cases hv

lemma within_of_member {levels : Nat} {fields : List Field} {key : String} {before after : Filled fields}
    {reader : Reader (Filled fields)} {t u : List Char} (hm : member levels key before = .ok reader)
    (h : (reader t).Gives after u) (hb : Within levels fields before) : Within levels fields after := by
  induction fields generalizing t u with
  | nil => trivial
  | cons f fs ih =>
    obtain ⟨o, rest⟩ := before
    unfold member at hm
    split at hm
    · split at hm
      · cases hm
      · cases hm
        obtain ⟨v, hv, rfl⟩ := gives_map_iff.1 h
        refine ⟨fun w hw => ?_, hb.2⟩
        cases hw
        exact Shape.within_of_read hv
    · split at hm
      · cases hm
      · rename_i reader' hm'
        cases hm
        obtain ⟨rest', hr, rfl⟩ := gives_map_iff.1 h
        exact ⟨hb.1, ih hm' hr hb.2⟩

lemma within_of_finish {levels : Nat} {fields : List Field} {filled : Filled fields} {vs : Slots fields}
    (h : filled.finish = .ok vs) (hb : Within levels fields filled) : Slots.Within levels fields vs := by
  induction fields with
  | nil => trivial
  | cons f fs ih =>
    obtain ⟨o, rest⟩ := filled
    rw [finish] at h
    split at h
    · rename_i v ws hv hws
      cases h
      refine ⟨?_, ih hws hb.2⟩
      cases o with
      | none => exact Shape.within_of_absent hv
      | some w =>
        cases hv
        exact hb.1 _ rfl
    · cases h
    · cases h

end Filled

namespace Format

variable {α : Type} {format : Format α} {a : α}

lemma within_of_reader {levels : Nat} {s rest : List Char} (h : (format.reader (levels + 1) s).Gives a rest) :
    ∃ slots, a = format.ofSlots slots ∧ Slots.Within levels format.fields slots := by
  unfold reader at h
  split at h
  · exact absurd h not_gives_error
  · rename_i c r n hs hn
    cases hn
    split at h
    · split at h
      · exact absurd h not_gives_error
      · rename_i filled t ht hblock
        have hfilled : Filled.Within levels format.fields filled :=
          block_induction (I := Filled.Within levels format.fields)
            (fun _ _ _ _ _ _ hm hu hb => Filled.within_of_member hm hu hb) (Filled.within_empty levels _)
            (gives_of_eq hblock)
        cases hf : filled.finish with
        | error e => exact absurd (hf ▸ h) not_gives_error
        | ok slots =>
          obtain ⟨rfl, -⟩ := gives_ok_iff.1 (hf ▸ h : Gives (.ok (format.ofSlots slots, ⟨t, _⟩)) a rest)
          exact ⟨slots, rfl, Filled.within_of_finish hf hfilled⟩
    · split at h
      · obtain ⟨slots, hslots, rfl⟩ := gives_map_iff.1 (gives_widen_iff.1 h)
        exact ⟨slots, rfl, Slots.within_of_positional hslots⟩
      · exact absurd h not_gives_error
  · rename_i hn
    cases hn

lemma within_of_read {text : String} (h : format.read text = .ok a) :
    ∃ slots, a = format.ofSlots slots ∧ Slots.Within (maxNesting - 1) format.fields slots := by
  obtain ⟨r, hr, -⟩ := document_eq_ok_iff.1 h
  exact within_of_reader hr

end Format

end Json

lemma Request.nesting_of_read {text : String} {r : Request} (h : Request.format.read text = .ok r) :
    ∀ schema ∈ r.schema, schema.nesting ≤ 126 := by
  obtain ⟨⟨schema, count, _⟩, rfl, hschema, -⟩ := Json.Format.within_of_read h
  exact hschema

namespace Dataset

open Json

theorem read_pretty_eq_ok_iff {records l : Dataset} (hp : ∀ v ∈ records, Plain v) :
    read records.toJson.pretty = .ok l ↔ l = records ∧ ∀ v ∈ records, v.nesting ≤ 126 := by
  obtain ⟨t, ht⟩ : ∃ t, write .indented 0 (.arr records) [] = '[' :: t := by
    cases records <;> exact ⟨_, rfl⟩
  have htext : records.toJson.pretty.toList = '[' :: t := by
    rw [← ht, toJson, pretty, String.toList_ofList]
  have hread (rest : List Char) :
      Reading.Gives (Shape.read (.list .any) maxNesting records.toJson.pretty.toList) l rest ↔
      Reading.Gives (sequence (value .strict 126) t) l rest := by
    rw [htext]
    refine Shape.gives_read_list_iff.trans ⟨?_, fun h => ⟨t, rfl, h⟩⟩
    rintro ⟨r, hr, h⟩
    cases hr
    exact h
  rw [read, document_eq_ok_iff]
  simp only [hread]
  constructor
  · rintro ⟨rest, h, -⟩
    have hl : ∀ v ∈ l, v.nesting ≤ 126 := forall_mem_sequence (fun _ _ _ hv => nesting_le_of_value hv) h
    let deep := 126 + nestingItems records
    have hdeep : ∀ v ∈ records, v.nesting ≤ deep :=
      fun v hv => Nat.le_trans (nestingItems_le_iff.1 (Nat.le_refl _) v hv) (Nat.le_add_left _ _)
    have h' : Reading.Gives (sequence (value .strict deep) t) l rest :=
      follows_sequence shift_id (fun _ _ _ hv => gives_value_mono (Nat.le_add_right 126 _) hv) _ _ _ h
    obtain ⟨rfl, -⟩ := h'.unique (readsAs_sequence hp hdeep ht)
    exact ⟨rfl, hl⟩
  · rintro ⟨rfl, hn⟩
    exact ⟨[], readsAs_sequence hp hn ht, rfl⟩

end Dataset

end Specimen
