import Specimen.Proofs.Engine.Budget
import Specimen.Proofs.Engine.Counters
import Specimen.Proofs.Engine.Pace

namespace Specimen

open EStateM (Result)

namespace Walker

variable {σ α : Type} (step : Walker σ α)

lemma gather_eq_map (n : Nat) (l : List α) : gather step n l = (l.reverse ++ ·) <$> gather step n [] := by
  induction n generalizing l with
  | zero => simp [gather]
  | succ n ih =>
    simp only [gather, map_bind]
    refine bind_congr fun a => ?_
    rw [ih (a :: l), ih [a]]
    simp

lemma gather_add (a b : Nat) : gather step (a + b) [] = do
    let first ← gather step a []
    let second ← gather step b []
    return first ++ second := by
  induction a with
  | zero => simp [gather]
  | succ a ih =>
    rw [Nat.add_right_comm, gather, gather, bind_assoc]
    refine bind_congr fun x => ?_
    rw [gather_eq_map step (a + b), gather_eq_map step a, ih]
    simp

end Walker

structure Walk.Joins {σ : Type} (u first second : Walk σ) : Prop where
  source : u.source = second.source
  values : u.values = first.values + second.values
  report : u.report.Totals first.report second.report

structure Report.Sums (whole first second : Report) : Prop where
  tally : ∀ t, (whole.tally t).toNat = (first.tally t).toNat + (second.tally t).toNat
  arrayElements : whole.arrayElements.toNat = first.arrayElements.toNat + second.arrayElements.toNat
  recordsGenerated : whole.recordsGenerated.toNat = first.recordsGenerated.toNat + second.recordsGenerated.toNat

namespace Run

variable {σ : Type}

def Succeeds (r : Run σ) : Prop := ∃ records, r.outcome = .ok records

structure Joins (whole first second : Run σ) : Prop where
  outcome : ∃ l l', first.outcome = .ok l ∧ second.outcome = .ok l' ∧ whole.outcome = .ok (l ++ l')
  source : whole.source = second.source
  report : whole.report.Sums first.report second.report

structure Splits (limit : UInt64) (values : Nat) (whole first second : Run σ) : Prop where
  succeeds_iff : whole.Succeeds ↔ first.Succeeds ∧ second.Succeeds ∧ values ≤ limit.toNat
  joins : whole.Succeeds → whole.Joins first second

end Run

namespace Report

lemma Totals.tally_of_new {r later : Report} {runId : String} {requested : UInt64}
    (h : r.Totals (new runId requested) later) (t : Tally) : r.tally t = later.tally t := by
  rw [h.tally, tally_new, UInt64.zero_add]

lemma Totals.arrayElements_of_new {r later : Report} {runId : String} {requested : UInt64}
    (h : r.Totals (new runId requested) later) : r.arrayElements = later.arrayElements := by
  apply UInt64.toNat_inj.1
  have hlt : later.arrayElements.toNat < UInt64.size := later.arrayElements.toNat_lt
  rw [h.arrayElements, toNat_addElements]
  change min (UInt64.size - 1) (0 + _) = _
  omega

lemma Totals.after_new {r base later last : Report} {runId : String} {requested : UInt64}
    (h : r.Totals (new runId requested) later) (hlast : last.Totals r base) : last.Totals later base where
  tally t := by rw [hlast.tally, h.tally_of_new]
  arrayElements := by rw [hlast.arrayElements, h.arrayElements_of_new]

lemma tally_withRecords (r : Report) (n : UInt64) (t : Tally) :
    { r with recordsGenerated := n }.tally t = r.tally t := by
  cases t <;> rfl

lemma Totals.sums {r base later : Report} (h : r.Totals base later) {n m : Nat} (hsize : n + m < UInt64.size)
    (htally : ∀ t, (base.tally t).toNat ≤ n ∧ (later.tally t).toNat ≤ m)
    (helements : base.arrayElements.toNat ≤ n ∧ later.arrayElements.toNat ≤ m) {k i j : UInt64}
    (hrecords : k.toNat = i.toNat + j.toNat) :
    { r with recordsGenerated := k }.Sums { base with recordsGenerated := i } { later with recordsGenerated := j } where
  tally t := by
    obtain ⟨hbase, hlater⟩ := htally t
    have hlt : (base.tally t).toNat + (later.tally t).toNat < UInt64.size :=
      Nat.lt_of_le_of_lt (Nat.add_le_add hbase hlater) hsize
    simp only [tally_withRecords]
    rw [h.tally, UInt64.toNat_add, Nat.mod_eq_of_lt hlt]
  arrayElements := by
    dsimp only
    rw [h.arrayElements, toNat_addElements]
    omega
  recordsGenerated := hrecords

end Report

namespace Engine

open Walker

variable {σ : Type}

lemma inStep_begin (w : Walk σ) (runId : String) (count : UInt64) :
    InStep w.values w.report w (begin w.source false (.new runId count)) :=
  ⟨rfl, rfl, w.report.totals_new runId count⟩

variable [WordSource σ] (e : Engine σ) (schema : Schema)

lemma records_add (watched : Bool) (a b : Nat) : e.records watched schema (a + b) = do
    let first ← e.records watched schema a
    let second ← e.records watched schema b
    return first ++ second := by
  simp only [records]
  exact gather_add _ a b

lemma records_add_eq_ok_iff {watched : Bool} {a b : Nat} {l : Dataset} {w w' : Walk σ} :
    e.records watched schema (a + b) w = .ok l w' ↔ ∃ first v second, e.records watched schema a w = .ok first v ∧
      e.records watched schema b v = .ok second w' ∧ first ++ second = l := by
  simp only [records_add, bind_eq_ok_iff, pure_eq_ok_iff]
  constructor
  · rintro ⟨first, v, h, second, v', h', rfl, rfl⟩
    exact ⟨first, v, second, h, h', rfl⟩
  · rintro ⟨first, v, second, h, h', rfl⟩
    exact ⟨first, v, h, second, w', h', rfl, rfl⟩

lemma records_one (w : Walk σ) : e.records false schema 1 w =
    match e.value false schema w with
    | .ok v w' => .ok [v] { w' with recordsDone := w'.recordsDone + 1 }
    | .error fault w' => .error fault w' := by
  change EStateM.bind (EStateM.bind (e.value false schema) fun v => EStateM.bind finishRecord fun _ => pure v)
    (fun v => pure [v]) w = _
  simp only [EStateM.bind]
  cases e.value false schema w <;> rfl

section

variable {e schema} {n : Nat} {l : Dataset} {w u v : Walk σ} {runId : String} {requested : UInt64}

lemma restart (h : e.records false schema n w = .ok l u) (runId : String) (requested : UInt64) :
    ∃ v, e.records false schema n (begin w.source false (.new runId requested)) = .ok l v ∧
      InStep w.values w.report u v := by
  have hpace := (e.keepsPace_records w.values w.report schema n).pace _ _ (inStep_begin w runId requested)
  rw [h] at hpace
  generalize e.records false schema n (begin w.source false (.new runId requested)) = r at hpace ⊢
  cases hpace with
  | ok hstep => exact ⟨_, rfl, hstep⟩

lemma resume (h : e.records false schema n (begin w.source false (.new runId requested)) = .ok l v)
    (hbudget : w.values + v.values ≤ e.options.maxValues.toNat) : ∃ u, e.records false schema n w = .ok l u := by
  have hpace := (e.keepsPace_records w.values w.report schema n).pace _ _ (inStep_begin w runId requested)
  rw [h] at hpace
  generalize e.records false schema n w = r at hpace ⊢
  cases hpace with
  | ok => exact ⟨_, rfl⟩
  | short _ hlong => exact absurd hbudget (Nat.not_le.2 (hlong l v rfl))

end

def freeRecords (count : UInt64) (runId : String) (source : σ) : Result GenerationError (Walk σ) Dataset :=
  e.records false schema count.toNat (begin source false (.new runId count))

def valuesMade (count : UInt64) (source : σ) : Nat :=
  match e.freeRecords schema count "" source with
  | .ok _ w | .error _ w => w.values

section

variable {e schema} {a b c : UInt64} {first second runId : String} {source : σ} {l l₁ l₂ : Dataset} {w w₁ w₂ : Walk σ}

lemma covered_of_freeRecords (h : e.freeRecords schema c runId source = .ok l w) :
    Covered e.options.maxValues 0 0 w :=
  (e.ensures_records false schema c.toNat).ok _ l w (.begin source false runId c) h

lemma valuesMade_of_freeRecords (h : e.freeRecords schema c runId source = .ok l w) :
    e.valuesMade schema c source = w.values := by
  obtain ⟨v, hv, hstep⟩ := restart h "" c
  have hfree : e.freeRecords schema c "" source = .ok l v := hv
  rw [valuesMade, hfree]
  exact (hstep.values.trans (Nat.zero_add _)).symm

lemma freeRecords_split (hc : c.toNat = a.toNat + b.toNat) (h : e.freeRecords schema c runId source = .ok l w)
    (first second : String) :
    ∃ l₁ w₁ l₂ w₂, e.freeRecords schema a first source = .ok l₁ w₁ ∧
      e.freeRecords schema b second w₁.source = .ok l₂ w₂ ∧ l₁ ++ l₂ = l ∧ w.Joins w₁ w₂ := by
  rw [freeRecords, hc, records_add_eq_ok_iff] at h
  obtain ⟨l₁, u, l₂, h₁, h₂, hl⟩ := h
  -- the first part begins anew as well, since runs of other names and counts have other reports
  obtain ⟨w₁, hw₁, hstep₁⟩ := restart h₁ first a
  obtain ⟨w₂, hw₂, hstep₂⟩ := restart h₂ second b
  have hvalues : u.values = w₁.values := hstep₁.values.trans (Nat.zero_add _)
  refine ⟨l₁, w₁, l₂, w₂, hw₁, hstep₁.source ▸ hw₂, hl, hstep₂.source, ?_, hstep₁.report.after_new hstep₂.report⟩
  rw [hstep₂.values, hvalues]

lemma freeRecords_join (hc : c.toNat = a.toNat + b.toNat) (h₁ : e.freeRecords schema a first source = .ok l₁ w₁)
    (h₂ : e.freeRecords schema b second w₁.source = .ok l₂ w₂)
    (hbudget : w₁.values + w₂.values ≤ e.options.maxValues.toNat) :
    ∃ w, e.freeRecords schema c runId source = .ok (l₁ ++ l₂) w := by
  obtain ⟨u, hu, hstep⟩ := restart h₁ runId c
  have hvalues : w₁.values = u.values := hstep.values.trans (Nat.zero_add _)
  rw [hvalues] at hbudget
  rw [hstep.source] at h₂
  obtain ⟨w, hw⟩ := resume h₂ hbudget
  rw [freeRecords, hc]
  exact ⟨w, (records_add_eq_ok_iff e schema).2 ⟨l₁, u, l₂, hu, hw, rfl⟩⟩

end

section

variable {e schema} {count : UInt64} {runId : String} {source : σ} {l : Dataset} {w : Walk σ}

lemma run_eq_ofResult (h : e.options.checkLimits [] schema = .ok ()) :
    e.run schema count none runId source = .ofResult (e.freeRecords schema count runId source) :=
  run_of_checkLimits_eq_ok e h

lemma run_of_freeRecords (hl : e.options.checkLimits [] schema = .ok ())
    (h : e.freeRecords schema count runId source = .ok l w) :
    e.run schema count none runId source = .ofResult (.ok l w) := by
  rw [run_eq_ofResult hl, h]

lemma exists_freeRecords_of_run (h : (e.run schema count none runId source).outcome = .ok l) :
    e.options.checkLimits [] schema = .ok () ∧ ∃ w, e.freeRecords schema count runId source = .ok l w :=
  e.exists_walk_of_run h

lemma generate_eq_run (source : σ) (runId : String) :
    (e.run schema 1 none runId source).outcome = (e.generate schema source).1.map ([·]) ∧
      (e.run schema 1 none runId source).source = (e.generate schema source).2 := by
  cases hl : e.options.checkLimits [] schema with
  | error fault =>
    rw [run_of_checkLimits_eq_error hl, generate, hl]
    exact ⟨rfl, rfl⟩
  | ok =>
    have hpace := (e.keepsPace_value 0 {} schema).pace _ _ (inStep_begin (begin source false {}) runId 1)
    have hone := records_one e schema (begin source false (.new runId 1))
    rw [run_eq_ofResult hl, generate, hl, freeRecords]
    change (Run.ofResult (e.records false schema 1 _)).outcome = _ ∧
      (Run.ofResult (e.records false schema 1 _)).source = _
    rw [hone]
    change Pace _ _ _ _ (e.value false schema (begin source false (.new runId 1))) at hpace
    generalize e.value false schema (begin source false (.new runId 1)) = r at hpace ⊢
    generalize e.value false schema (begin source false {}) = r' at hpace ⊢
    cases hpace with
    | ok hstep => exact ⟨rfl, hstep.source.symm⟩
    | error hsource => exact ⟨rfl, hsource.symm⟩
    | short hpos => exact absurd hpos (Nat.lt_irrefl 0)

end

section

variable {e schema} {a b c : UInt64} {first second runId : String} {source : σ} {l₁ l₂ : Dataset} {w w₁ w₂ : Walk σ}

lemma length_of_freeRecords {l : Dataset} (h : e.freeRecords schema c runId source = .ok l w) : l.length = c.toNat :=
  (e.yields_records false schema c.toNat _ l w h).1

lemma joins_of_freeRecords (hc : c.toNat = a.toNat + b.toNat) (hw : w.Joins w₁ w₂)
    (h : e.freeRecords schema c runId source = .ok (l₁ ++ l₂) w) (h₁ : e.freeRecords schema a first source = .ok l₁ w₁)
    (h₂ : e.freeRecords schema b second w₁.source = .ok l₂ w₂) :
    (Run.ofResult (.ok (l₁ ++ l₂) w)).Joins (.ofResult (.ok l₁ w₁)) (.ofResult (.ok l₂ w₂)) where
  outcome := ⟨l₁, l₂, rfl, rfl, rfl⟩
  source := hw.source
  report := by
    have hcovered := covered_of_freeRecords h
    have hcovered₁ := covered_of_freeRecords h₁
    have hcovered₂ := covered_of_freeRecords h₂
    have hsize : w₁.values + w₂.values < UInt64.size := hw.values ▸ hcovered.lt_size (Nat.le_refl _)
    refine hw.report.sums hsize (fun t => ⟨hcovered₁.tally_le t, hcovered₂.tally_le t⟩) ⟨?_, ?_⟩ ?_
    · have := hcovered₁.placed_le
      omega
    · have := hcovered₂.placed_le
      omega
    · have ha : l₁.length = a.toNat := length_of_freeRecords h₁
      have hb : l₂.length = b.toNat := length_of_freeRecords h₂
      simp only [List.length_append, ha, hb, ← hc, UInt64.ofNat_toNat]

lemma joins_of_succeeds (hc : c.toNat = a.toNat + b.toNat) (h : (e.run schema c none runId source).Succeeds)
    (first second : String) :
    (e.run schema a none first source).Succeeds ∧
    (e.run schema b none second (e.run schema a none first source).source).Succeeds ∧
    e.valuesMade schema a source + e.valuesMade schema b (e.run schema a none first source).source ≤
      e.options.maxValues.toNat ∧
    (e.run schema c none runId source).Joins (e.run schema a none first source)
      (e.run schema b none second (e.run schema a none first source).source) := by
  obtain ⟨l, h⟩ := h
  obtain ⟨hl, w, hw⟩ := exists_freeRecords_of_run h
  obtain ⟨l₁, w₁, l₂, w₂, h₁, h₂, rfl, hj⟩ := freeRecords_split hc hw first second
  have hbudget : w₁.values + w₂.values ≤ e.options.maxValues.toNat :=
    hj.values ▸ (covered_of_freeRecords hw).values_le
  have hfirst := run_of_freeRecords hl h₁
  have hsource : (e.run schema a none first source).source = w₁.source := congrArg Run.source hfirst
  rw [hsource, hfirst, run_of_freeRecords hl h₂, run_of_freeRecords hl hw, valuesMade_of_freeRecords h₁,
    valuesMade_of_freeRecords h₂]
  exact ⟨⟨l₁, rfl⟩, ⟨l₂, rfl⟩, hbudget, joins_of_freeRecords hc hj hw h₁ h₂⟩

lemma succeeds_of_parts (hc : c.toNat = a.toNat + b.toNat) (h₁ : (e.run schema a none first source).Succeeds)
    (h₂ : (e.run schema b none second (e.run schema a none first source).source).Succeeds)
    (hbudget : e.valuesMade schema a source + e.valuesMade schema b (e.run schema a none first source).source ≤
      e.options.maxValues.toNat) : (e.run schema c none runId source).Succeeds := by
  obtain ⟨l₁, h₁⟩ := h₁
  obtain ⟨l₂, h₂⟩ := h₂
  obtain ⟨hl, w₁, hw₁⟩ := exists_freeRecords_of_run h₁
  have hsource : (e.run schema a none first source).source = w₁.source :=
    congrArg Run.source (run_of_freeRecords hl hw₁)
  rw [hsource] at h₂ hbudget
  obtain ⟨-, w₂, hw₂⟩ := exists_freeRecords_of_run h₂
  rw [valuesMade_of_freeRecords hw₁, valuesMade_of_freeRecords hw₂] at hbudget
  obtain ⟨w, hw⟩ := freeRecords_join hc hw₁ hw₂ hbudget
  rw [run_of_freeRecords hl hw]
  exact ⟨l₁ ++ l₂, rfl⟩

lemma run_splits (hc : c.toNat = a.toNat + b.toNat) (first second runId : String) (source : σ) :
    (e.run schema c none runId source).Splits e.options.maxValues
      (e.valuesMade schema a source + e.valuesMade schema b (e.run schema a none first source).source)
      (e.run schema a none first source)
      (e.run schema b none second (e.run schema a none first source).source) where
  succeeds_iff := by
    constructor
    · intro h
      obtain ⟨hfirst, hsecond, hbudget, -⟩ := joins_of_succeeds hc h first second
      exact ⟨hfirst, hsecond, hbudget⟩
    · rintro ⟨hfirst, hsecond, hbudget⟩
      exact succeeds_of_parts hc hfirst hsecond hbudget
  joins h := (joins_of_succeeds hc h first second).2.2.2

lemma run_take (h : a ≤ c) (first runId : String) (source : σ) {records : Dataset}
    (hr : (e.run schema c none runId source).outcome = .ok records) :
    (e.run schema a none first source).outcome = .ok (records.take a.toNat) := by
  have hle : a.toNat ≤ c.toNat := UInt64.le_iff_toNat_le.1 h
  have hc : c.toNat = a.toNat + (c - a).toNat := by
    rw [UInt64.toNat_sub_of_le _ _ h]
    omega
  obtain ⟨l₁, l₂, h₁, -, hwhole⟩ := ((run_splits hc first "" runId source).joins ⟨records, hr⟩).outcome
  obtain ⟨-, w, hw⟩ := exists_freeRecords_of_run h₁
  cases hr.symm.trans hwhole
  rw [h₁, ← length_of_freeRecords hw, List.take_left]

end

theorem run_add (e : Engine σ) (schema : Schema) (source : σ) :
    (∀ runId, (e.run schema 1 none runId source).outcome = (e.generate schema source).1.map ([·]) ∧
      (e.run schema 1 none runId source).source = (e.generate schema source).2) ∧
    (∀ a b c : UInt64, c.toNat = a.toNat + b.toNat → ∀ first second runId,
      (e.run schema c none runId source).Splits e.options.maxValues
        (e.valuesMade schema a source + e.valuesMade schema b (e.run schema a none first source).source)
        (e.run schema a none first source)
        (e.run schema b none second (e.run schema a none first source).source)) ∧
    ∀ a c : UInt64, a ≤ c → ∀ first runId records, (e.run schema c none runId source).outcome = .ok records →
      (e.run schema a none first source).outcome = .ok (records.take a.toNat) :=
  ⟨generate_eq_run source, fun _ _ _ hc first second runId => run_splits hc first second runId source,
    fun _ _ h first runId _ => run_take h first runId source⟩

section

def pairRun (count : UInt64) (source : WordCycle) : Run WordCycle := plainEngine.run pairSchema count none "" source

theorem run_add_pair :
    (pairRun 3 ⟨#[0], 0⟩).Succeeds ∧
    (pairRun 3 ⟨#[0], 0⟩).Joins (pairRun 1 ⟨#[0], 0⟩) (pairRun 2 (pairRun 1 ⟨#[0], 0⟩).source) ∧
    (∀ records, (pairRun 3 ⟨#[0], 0⟩).outcome = .ok records →
      (pairRun 2 ⟨#[0], 0⟩).outcome = .ok (records.take 2)) ∧
    (tightEngine.run pairSchema 1 none "" ⟨#[0], 0⟩).Succeeds ∧
    ¬ (tightEngine.run pairSchema 2 none "" ⟨#[0], 0⟩).Succeeds := by
  have hsucceeds {r : Run WordCycle} (h : r.outcome.toOption.isSome) : r.Succeeds := by
    cases ho : r.outcome with
    | ok records => exact ⟨records, ho⟩
    | error fault => simp [ho, Except.toOption] at h
  have hthree : (pairRun 3 ⟨#[0], 0⟩).Succeeds := hsucceeds (by decide +kernel)
  have hone : (tightEngine.run pairSchema 1 none "" ⟨#[0], 0⟩).Succeeds := hsucceeds (by decide +kernel)
  obtain ⟨-, hsplits, htake⟩ := run_add plainEngine pairSchema (⟨#[0], 0⟩ : WordCycle)
  obtain ⟨-, htight, -⟩ := run_add tightEngine pairSchema (⟨#[0], 0⟩ : WordCycle)
  have hbudget : ¬ tightEngine.valuesMade pairSchema 1 (⟨#[0], 0⟩ : WordCycle) +
      tightEngine.valuesMade pairSchema 1 (tightEngine.run pairSchema 1 none "" ⟨#[0], 0⟩).source ≤
      tightEngine.options.maxValues.toNat := by decide +kernel
  refine ⟨hthree, (hsplits 1 2 3 rfl "" "" "").joins hthree, htake 2 3 (by decide) "" "", hone, fun htwo => ?_⟩
  exact hbudget ((htight 1 1 2 rfl "" "" "").succeeds_iff.1 htwo).2.2

end

end Engine

end Specimen
