import Specimen.Proofs.Engine.Accounts
import Specimen.Proofs.Engine.Events

namespace Specimen

namespace SortedMap

lemma total_insert (m : SortedMap UInt64) (k : String) (v : UInt64) :
    (m.insert k v).total + ((m.find? k).getD 0).toNat = m.total + v.toNat := by
  obtain ⟨l, hl⟩ := m
  simp only [total, insert, find?]
  induction l with
  | nil => simp [insertEntry]
  | cons e r ih =>
    obtain ⟨he, hr⟩ := List.pairwise_cons.1 hl
    rw [insertEntry]
    split
    · rename_i hlt
      have habsent : Entries.find? k (e :: r) = none := find?_eq_none_of_lt fun d hd => by
        rcases List.mem_cons.1 hd with rfl | hd
        · exact hlt
        · exact String.lt_trans hlt (he d hd)
      simp only [habsent, List.map_cons, List.sum_cons, Option.getD_none, UInt64.toNat_zero]
      omega
    · split
      · rename_i hk
        simp only [Entries.find?_cons, if_pos hk, List.map_cons, List.sum_cons, Option.getD_some]
        omega
      · rename_i hk
        have := ih hr
        simp only [Entries.find?_cons, if_neg hk, List.map_cons, List.sum_cons]
        omega

end SortedMap

namespace Report

def after (r : Report) (events : List Event) : Report := events.foldl apply r

lemma after_cons (r : Report) (e : Event) (rest : List Event) : r.after (e :: rest) = (r.apply e).after rest := rfl

def HasRoom (r : Report) : List Event → Prop
  | [] => True
  | e :: rest => (∀ t ∈ e.counted, (r.tally t).toNat + 1 < UInt64.size) ∧ (r.apply e).HasRoom rest

instance decidableHasRoom : (r : Report) → (events : List Event) → Decidable (r.HasRoom events)
  | _, [] => isTrue trivial
  | r, e :: rest => @instDecidableAnd _ _ _ (decidableHasRoom (r.apply e) rest)

/-- How many more fallbacks were counted than their tags tell. -/
def balance (r : Report) : Int := r.fallbackCount.toNat - r.fallbackTags.total

def frame (r : Report) : String × UInt64 × UInt64 × UInt64 :=
  (r.runId, r.recordsRequested, r.recordsGenerated, r.durationMs)

section step

variable (r : Report) (e e' : Event)

variable {r e} in
lemma toNat_tally_apply (h : ∀ t ∈ e.counted, (r.tally t).toNat + 1 < UInt64.size) (t : Tally) :
    ((r.apply e).tally t).toNat = (r.tally t).toNat + if t ∈ e.counted then 1 else 0 := by
  rw [tally_apply]
  split
  · rename_i ht
    exact (UInt64.toNat_add _ _).trans (Nat.mod_eq_of_lt (h t ht))
  · rw [UInt64.add_zero, Nat.add_zero]

lemma countTag_comm (tag tag' : String) (m : SortedMap UInt64) :
    countTag tag (countTag tag' m) = countTag tag' (countTag tag m) := by
  refine SortedMap.ext_find? fun k => ?_
  simp only [find?_countTag]
  by_cases h : k = tag <;> by_cases h' : k = tag' <;> simp_all

lemma addElements_left_comm (a b c : UInt64) : addElements a (addElements b c) = addElements b (addElements a c) := by
  apply UInt64.toNat_inj.1
  simp only [toNat_addElements]
  omega

lemma apply_comm : (r.apply e).apply e' = (r.apply e').apply e := by
  cases e with
  | usage tag =>
    cases e' with
    | usage tag' => simp [apply, recordUsage, countTag_comm tag tag']
    | fallback | image | array => rfl
  | fallback tag =>
    cases e' with
    | fallback tag' => simp [apply, recordFallback, countTag_comm tag tag']
    | usage | image | array => rfl
  | image => cases e' <;> rfl
  | array len =>
    cases e' with
    | array len' => simp [apply, recordArray, addElements_left_comm len len']
    | usage | fallback | image => rfl

variable {r e} in
lemma balance_apply (h : ∀ t ∈ e.counted, (r.tally t).toNat + 1 < UInt64.size) : (r.apply e).balance = r.balance := by
  cases e with
  | usage | image | array => rfl
  | fallback tag =>
    have hcount : (r.fallbackCount + 1).toNat = r.fallbackCount.toNat + 1 := toNat_tally_apply h .fallbacks
    have htag : ((r.fallbackTags.find? tag).getD 0 + 1).toNat = ((r.fallbackTags.find? tag).getD 0).toNat + 1 :=
      (UInt64.toNat_add _ _).trans (Nat.mod_eq_of_lt (h (.fallback tag) (by simp [Event.counted])))
    have htotal := r.fallbackTags.total_insert tag ((r.fallbackTags.find? tag).getD 0 + 1)
    simp only [balance, apply, recordFallback, countTag, SortedMap.alter]
    omega

end step

section run

variable {r : Report} {events events' : List Event}

lemma hasRoom_iff :
    r.HasRoom events ↔ ∀ t, (r.tally t).toNat + events.countP (t ∈ ·.counted) < UInt64.size := by
  induction events generalizing r with
  | nil => exact ⟨fun _ t => (r.tally t).toNat_lt, fun _ => trivial⟩
  | cons e rest ih =>
    rw [HasRoom, ih]
    constructor
    · rintro ⟨hroom, hrest⟩ t
      have := hrest t
      rw [toNat_tally_apply hroom] at this
      simp only [List.countP_cons, decide_eq_true_eq]
      omega
    · intro h
      simp only [List.countP_cons, decide_eq_true_eq] at h
      have hroom : ∀ t ∈ e.counted, (r.tally t).toNat + 1 < UInt64.size := fun t ht => by
        have := h t
        rw [if_pos ht] at this
        omega
      refine ⟨hroom, fun t => ?_⟩
      rw [toNat_tally_apply hroom]
      have := h t
      omega

lemma HasRoom.perm (h : r.HasRoom events) (hp : events.Perm events') : r.HasRoom events' := by
  rw [hasRoom_iff] at h ⊢
  simpa only [hp.countP_eq] using h

lemma after_perm (hp : events.Perm events') : r.after events = r.after events' :=
  hp.foldl_eq' (fun e _ e' _ r => apply_comm r e e') r

lemma toNat_tally_after (h : r.HasRoom events) (t : Tally) :
    ((r.after events).tally t).toNat = (r.tally t).toNat + events.countP (t ∈ ·.counted) := by
  induction events generalizing r with
  | nil => rfl
  | cons e rest ih =>
    obtain ⟨hroom, hrest⟩ := h
    rw [after_cons, ih hrest, toNat_tally_apply hroom, List.countP_cons]
    simp only [decide_eq_true_eq]
    omega

lemma toNat_arrayElements_after : (r.after events).arrayElements.toNat =
    min (UInt64.size - 1) (r.arrayElements.toNat + (events.map (·.elements.toNat)).sum) := by
  induction events generalizing r with
  | nil => exact (Nat.min_eq_right (Nat.le_sub_one_of_lt r.arrayElements.toNat_lt)).symm
  | cons e rest ih =>
    rw [after_cons, ih, arrayElements_apply, toNat_addElements, List.map_cons, List.sum_cons]
    omega

lemma balance_after (h : r.HasRoom events) : (r.after events).balance = r.balance := by
  induction events generalizing r with
  | nil => rfl
  | cons e rest ih => exact (ih h.2).trans (balance_apply h.1)

lemma frame_after : (r.after events).frame = r.frame := by
  induction events generalizing r with
  | nil => rfl
  | cons e rest ih =>
    have hstep : (r.apply e).frame = r.frame := by cases e <;> rfl
    exact ih.trans hstep

lemma mem_keys_countTag {tag other : String} {m : SortedMap UInt64} :
    other ∈ (countTag tag m).keys ↔ other = tag ∨ other ∈ m.keys := by
  rw [SortedMap.mem_keys_iff, SortedMap.mem_keys_iff, find?_countTag]
  split <;> simp [*]

lemma mem_keys_after {tag : String} :
    (tag ∈ (r.after events).generatorUsage.keys ↔ tag ∈ r.generatorUsage.keys ∨ .usage tag ∈ events) ∧
    (tag ∈ (r.after events).fallbackTags.keys ↔ tag ∈ r.fallbackTags.keys ∨ .fallback tag ∈ events) := by
  induction events generalizing r with
  | nil => simp [after]
  | cons e rest ih =>
    rw [after_cons, ih.1, ih.2]
    cases e with
    | usage tag' => simp [apply, recordUsage, mem_keys_countTag, or_assoc, or_left_comm]
    | fallback tag' => simp [apply, recordFallback, mem_keys_countTag, or_assoc, or_left_comm]
    | image | array => simp [apply, recordImage, recordArray]

end run

structure Tallies (r : Report) (events : List Event) (r' : Report) : Prop where
  usage : ∀ tag, ((r'.generatorUsage.find? tag).getD 0).toNat =
    ((r.generatorUsage.find? tag).getD 0).toNat + events.count (.usage tag)
  usageTags : ∀ tag, tag ∈ r'.generatorUsage.keys ↔ tag ∈ r.generatorUsage.keys ∨ .usage tag ∈ events
  fallback : ∀ tag, ((r'.fallbackTags.find? tag).getD 0).toNat =
    ((r.fallbackTags.find? tag).getD 0).toNat + events.count (.fallback tag)
  fallbackTags : ∀ tag, tag ∈ r'.fallbackTags.keys ↔ tag ∈ r.fallbackTags.keys ∨ .fallback tag ∈ events
  fallbacks : r'.fallbackCount.toNat = r.fallbackCount.toNat + events.countP Event.isFallback
  images : r'.imagesGenerated.toNat = r.imagesGenerated.toNat + events.count .image
  elements : r'.arrayElements.toNat =
    min (UInt64.size - 1) (r.arrayElements.toNat + (events.map (·.elements.toNat)).sum)
  frame : r'.frame = r.frame
  balance : r'.balance = r.balance

lemma tallies_after {r : Report} {events : List Event} (h : r.HasRoom events) : r.Tallies events (r.after events) := by
  have htally (t : Tally) (p : Event → Bool) (hp : ∀ e : Event, t ∈ e.counted ↔ p e) :
      ((r.after events).tally t).toNat = (r.tally t).toNat + events.countP p := by
    rw [toNat_tally_after h]
    congr 2
    funext e
    simp [hp e]
  exact {
    usage := fun tag => htally (.usage tag) (· == .usage tag) fun e => by simp [e.mem_counted_usage]
    usageTags := fun _ => mem_keys_after.1
    fallback := fun tag => htally (.fallback tag) (· == .fallback tag) fun e => by simp [e.mem_counted_fallback]
    fallbackTags := fun _ => mem_keys_after.2
    fallbacks := htally .fallbacks Event.isFallback fun e => e.mem_counted_fallbacks
    images := htally .images (· == .image) fun e => by simp [e.mem_counted_images]
    elements := toNat_arrayElements_after
    frame := frame_after
    balance := balance_after h }

/-- A report counts the events, in any order alike. -/
theorem after_tallies (r : Report) (events : List Event) (h : r.HasRoom events) :
    r.Tallies events (r.after events) ∧
    (∀ events', events.Perm events' → r.HasRoom events' ∧ r.after events' = r.after events ∧
      (format.toJson (r.after events')).compact = (format.toJson (r.after events)).compact) ∧
    ∀ runId requested, (new runId requested).balance = 0 := by
  refine ⟨tallies_after h, fun events' hp => ?_, fun _ _ => rfl⟩
  have hsame : r.after events' = r.after events := after_perm hp.symm
  exact ⟨h.perm hp, hsame, by rw [hsame]⟩

section

def crowdedReport : Report := { new "r" 2 with arrayElements := 0xfffffffffffffffd, fallbackCount := 7 }

def mixedEvents : List Event := [.usage "name", .array 5, .fallback "b", .image, .fallback "a", .usage "name"]

theorem after_tallies_crowded :
    crowdedReport.Tallies mixedEvents (crowdedReport.after mixedEvents) ∧
    crowdedReport.after mixedEvents.reverse = crowdedReport.after mixedEvents ∧
    (crowdedReport.after mixedEvents).arrayElements = 0xffffffffffffffff := by
  have hroom : crowdedReport.HasRoom mixedEvents := by decide +kernel
  obtain ⟨htallies, hperm, -⟩ := after_tallies crowdedReport mixedEvents hroom
  exact ⟨htallies, (hperm _ mixedEvents.reverse_perm.symm).2.1, by decide +kernel⟩

end

end Report

end Specimen
