import Specimen.Engine.Options
import Specimen.Engine.Report
import Specimen.Proofs.Json.Survival

/-! The only loss is that a `null` in a request comes back as a missing member, which validation does not tell
apart. -/

namespace Specimen

open Json

namespace Json

namespace Shape

def lossless : Shape → Bool
  | .optional => false
  | .list element => element.lossless
  | _ => true

lemma settle_eq {shape : Shape} (h : shape.lossless) (a : shape.Carrier) : shape.settle a = a := by
  induction shape with
  | optional => cases h
  | list element ih =>
    have hmap : a.map element.settle = a.map id := List.map_congr_left fun b _ => ih h b
    rw [settle, hmap, List.map_id]
  | any | text | natural | tally => rfl

def fitsWithin : Nat → Shape → Bool
  | _, .text | _, .natural => true
  | n + 1, .list element => element.fitsWithin n
  | _ + 1, .tally => true
  | _, _ => false

lemma plain_tally (m : SortedMap UInt64) : Plain (toJson .tally m) := by
  refine .obj ?_ fun e he => ?_
  · exact (m.map Json.nat).nodup_keys
  · obtain ⟨⟨k, n⟩, -, rfl⟩ := List.mem_map.1 he
    exact plain_nat n

lemma nesting_tally_le (m : SortedMap UInt64) (n : Nat) : (toJson .tally m).nesting ≤ n + 1 := by
  refine nesting_obj_le_iff.2 fun e he => ?_
  obtain ⟨⟨k, n⟩, -, rfl⟩ := List.mem_map.1 he
  exact Nat.zero_le _

lemma plain_of_fitsWithin {shape : Shape} {n : Nat} (h : shape.fitsWithin n) (a : shape.Carrier) :
    (shape.toJson a).Plain ∧ (shape.toJson a).nesting ≤ n := by
  induction shape generalizing n with
  | any | optional => cases n <;> cases h
  | text => exact ⟨.str a, Nat.zero_le _⟩
  | natural => exact ⟨plain_nat a, Nat.zero_le _⟩
  | list element ih =>
    cases n with
    | zero => cases h
    | succ n =>
      have hitem : ∀ v ∈ a.map element.toJson, v.Plain ∧ v.nesting ≤ n := by
        intro v hv
        obtain ⟨b, -, rfl⟩ := List.mem_map.1 hv
        exact ih h b
      exact ⟨.arr fun v hv => (hitem v hv).1, nesting_arr_le_iff.2 fun v hv => (hitem v hv).2⟩
  | tally =>
    cases n with
    | zero => cases h
    | succ n => exact ⟨plain_tally a, nesting_tally_le a n⟩

end Shape

namespace Slots

lemma settle_eq {fields : List Field} (h : ∀ f ∈ fields, f.shape.lossless) (vs : Slots fields) :
    settle fields vs = vs := by
  induction fields with
  | nil => rfl
  | cons f fs ih =>
    obtain ⟨v, vs⟩ := vs
    obtain ⟨hf, hfs⟩ := List.forall_mem_cons.1 h
    rw [settle, Shape.settle_eq hf, ih hfs]

lemma plain_of_fitsWithin {n : Nat} {fields : List Field} (h : ∀ f ∈ fields, f.shape.fitsWithin n)
    (vs : Slots fields) : ∀ e ∈ toMembers fields vs, e.2.Plain ∧ e.2.nesting ≤ n := by
  induction fields with
  | nil => simp [toMembers]
  | cons f fs ih =>
    obtain ⟨v, vs⟩ := vs
    obtain ⟨hf, hfs⟩ := List.forall_mem_cons.1 h
    exact List.forall_mem_cons.2 ⟨Shape.plain_of_fitsWithin hf v, ih hfs vs⟩

end Slots

namespace Format

variable {α : Type} {format : Format α}

lemma survives_of_lossless (hn : (names format.fields).Nodup) (hl : ∀ f ∈ format.fields, f.shape.lossless) {a : α}
    (hp : (format.toJson a).Plain) (hnesting : (format.toJson a).nesting ≤ maxNesting) : format.Survives a a := by
  have hsettle : format.settle a = a := by
    rw [settle, Slots.settle_eq hl, format.ofSlots_toSlots]
  have h := format.survives hn hp hnesting
  rwa [hsettle] at h

lemma survives_of_fitsWithin (hn : (names format.fields).Nodup) (hl : ∀ f ∈ format.fields, f.shape.lossless)
    (hf : ∀ f ∈ format.fields, f.shape.fitsWithin 126) (a : α) : format.Survives a a := by
  have hmembers := Slots.plain_of_fitsWithin hf (format.toSlots a)
  refine survives_of_lossless hn hl (.obj ?_ fun e he => (hmembers e he).1)
    (nesting_obj_le_iff.2 fun e he => (hmembers e he).2)
  rw [Slots.keys_toMembers]
  exact hn

end Format

end Json

namespace Request

def settled (r : Request) : Request := ⟨r.schema.filter (· ≠ .null), r.count.filter (· ≠ .null)⟩

lemma filter_isTruthy_filter (o : Option Json) :
    (o.filter (· ≠ .null)).filter Json.isTruthy = o.filter Json.isTruthy := by
  cases o with
  | none => rfl
  | some v =>
    by_cases hv : v = .null
    · rw [hv]
      rfl
    · simp [Option.filter, hv]

lemma validate_settled (maxCount : UInt64) (r : Request) : r.settled.validate maxCount = r.validate maxCount := by
  simp only [validate, settled, filter_isTruthy_filter]

end Request

theorem records_survive :
    (∀ r : Request, (Request.format.toJson r).Plain → (Request.format.toJson r).nesting ≤ 127 →
      Request.format.Survives r r.settled ∧ ∀ maxCount, r.settled.validate maxCount = r.validate maxCount) ∧
    (∀ d : StoredDataset, (StoredDataset.format.toJson d).Plain → (StoredDataset.format.toJson d).nesting ≤ 127 →
      StoredDataset.format.Survives d d) ∧
    (∀ l : KeyList, KeyList.format.Survives l l) ∧
    (∀ m : Message, Message.format.Survives m m) ∧
    (∀ e : ErrorBody, ErrorBody.format.Survives e e) ∧
    (∀ r : Report, Report.format.Survives r r) ∧
    ∀ o : Options, Options.format.Survives o o := by
  refine ⟨fun r hp hn => ⟨?_, fun n => r.validate_settled n⟩, fun d hp hn => ?_, ?_, ?_, ?_, ?_, ?_⟩
  · exact Request.format.survives (by decide) hp hn
  · exact Format.survives_of_lossless (by decide) (by decide) hp hn
  all_goals exact Format.survives_of_fitsWithin (by decide) (by decide) (by decide)

def sampleRequest : Request := ⟨some (.obj [("\"a\"", .arr [.str "x\n", .nat 3]), ("b", .null)]), some .null⟩

def sampleStored : StoredDataset := ⟨"k", [.obj [("a", .str "\\")], .arr []]⟩

lemma plain_sampleRequest : (Request.format.toJson sampleRequest).Plain := by
  have hitems : ∀ v ∈ [Json.str "x\n", .nat 3], v.Plain := by simp [Plain.str, plain_nat]
  have hmembers : ∀ e ∈ [("\"a\"", Json.arr [.str "x\n", .nat 3]), ("b", .null)], e.2.Plain := by
    simp [Plain.null, Plain.arr hitems]
  have hschema : Plain (.obj [("\"a\"", .arr [.str "x\n", .nat 3]), ("b", .null)]) := .obj (by decide) hmembers
  exact .obj (by decide) (List.forall_mem_cons.2 ⟨hschema, List.forall_mem_singleton.2 .null⟩)

lemma plain_sampleStored : (StoredDataset.format.toJson sampleStored).Plain := by
  have hrecord : Plain (.obj [("a", .str "\\")]) := .obj (by decide) (List.forall_mem_singleton.2 (.str _))
  have hdata : ∀ v ∈ [.obj [("a", .str "\\")], .arr []], Plain v := by simp [hrecord, Plain.arr]
  exact .obj (by decide) (List.forall_mem_cons.2 ⟨.str _, List.forall_mem_singleton.2 (.arr hdata)⟩)

theorem records_survive_sample :
    Request.format.Survives sampleRequest ⟨sampleRequest.schema, none⟩ ∧
      StoredDataset.format.Survives sampleStored sampleStored :=
  ⟨(records_survive.1 sampleRequest plain_sampleRequest (by decide)).1,
    records_survive.2.1 sampleStored plain_sampleStored (by decide)⟩

end Specimen
