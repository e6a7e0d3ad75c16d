import Specimen.Generator.Scripted
import Specimen.Proofs.Engine.Stops

/-! A run with a token is the run without one up to the first checkpoint at which the token has been fired. -/

namespace Specimen

open EStateM (Result)

section

variable {σ α : Type}

lemma findSome?_watched {limit : UInt64} {l : List (Stop σ)} :
    (l.findSome? fun s => (s.fault? limit true).map (·, s.walk)) =
      match ((l.takeWhile fun s => (s.fault? limit false).isNone).filterMap Stop.checkpoint?).find? (·.fired) with
      | some w => some (.cancelled w.recordsDone, w)
      | none => l.findSome? fun s => (s.fault? limit false).map (·, s.walk) := by
  induction l with
  | nil => rfl
  | cons s r ih =>
    rw [List.findSome?_cons, List.findSome?_cons]
    cases s with
    | node w =>
      have hsame : (Stop.node w).fault? limit true = (Stop.node w).fault? limit false := rfl
      rw [hsame]
      cases hf : (Stop.node w).fault? limit false with
      | some fault => rw [List.takeWhile_cons_of_neg (by simp [hf])]; rfl
      | none =>
        rw [List.takeWhile_cons_of_pos (by simp [hf]), List.filterMap_cons_none (by rfl)]
        exact ih
    | checkpoint w =>
      have hwatch : (Stop.checkpoint w).fault? limit true =
          if w.fired then some (.cancelled w.recordsDone) else none := by simp [Stop.fault?]
      have hnone : (Stop.checkpoint w).fault? limit false = none := by simp [Stop.fault?]
      have hcheck : (Stop.checkpoint w).checkpoint? = some w := rfl
      rw [List.takeWhile_cons_of_pos (by simp [hnone]), List.filterMap_cons_some hcheck, hwatch, hnone]
      by_cases hw : w.fired = true
      · rw [if_pos hw, List.find?_cons_of_pos hw]
        rfl
      · rw [if_neg hw, List.find?_cons_of_neg hw]
        exact ih

lemma Outing.upTo_watched {o : Outing σ α} {limit : UInt64} :
    o.upTo (Stop.fault? limit true) =
      match ((o.stops.takeWhile fun s => (s.fault? limit false).isNone).filterMap Stop.checkpoint?).find?
          (·.fired) with
      | some w => .error (.cancelled w.recordsDone) w
      | none => o.upTo (Stop.fault? limit false) := by
  rw [upTo, upTo, findSome?_watched]
  cases ((o.stops.takeWhile fun s => (s.fault? limit false).isNone).filterMap Stop.checkpoint?).find?
    (·.fired) <;> rfl

lemma Outing.exists_stop_of_error {o : Outing σ α} {fault? : Stop σ → Option GenerationError}
    {fault : GenerationError} {w : Walk σ} (h : o.upTo fault? = .error fault w) :
    ∃ s ∈ o.stops, fault? s = some fault ∧ s.walk = w := by
  rw [upTo] at h
  cases hf : o.stops.findSome? fun s => (fault? s).map (·, s.walk) with
  | none => simp [hf] at h
  | some p =>
    obtain ⟨s, hs, hp⟩ := List.exists_of_findSome?_eq_some hf
    obtain ⟨fault', hfault, rfl⟩ := Option.map_eq_some_iff.1 hp
    rw [hf] at h
    cases h
    exact ⟨s, hs, hfault, rfl⟩

end

namespace Options

variable {o : Options} {fault : GenerationError}

mutual

lemma fault_of_checkLimits {path : Schema.Path} : {s : Schema} → o.checkLimits path s = .error fault →
    fault = .depthExceeded o.maxDepth ∨ ∃ p maxSize, fault = .arrayTooLarge p maxSize o.maxArrayLen
  | .scalar _, h | .image _, h => by
    rw [checkLimits] at h
    split at h
    · cases h
      exact .inl rfl
    · cases h
  | .object fields, h => by
    rw [checkLimits] at h
    split at h
    · cases h
      exact .inl rfl
    · exact fault_of_checkFields h
  | .array _ maxSize element, h => by
    rw [checkLimits] at h
    split at h
    · cases h
      exact .inl rfl
    · split at h
      · cases h
        exact .inr ⟨path, maxSize, rfl⟩
      · exact fault_of_checkLimits h

lemma fault_of_checkFields {path : Schema.Path} : {l : List (String × Schema)} →
    o.checkFields path l = .error fault →
    fault = .depthExceeded o.maxDepth ∨ ∃ p maxSize, fault = .arrayTooLarge p maxSize o.maxArrayLen
  | [], h => by cases h
  | (name, s) :: rest, h => by
    rw [checkFields] at h
    split at h
    · rename_i hs
      cases h
      exact fault_of_checkLimits hs
    · exact fault_of_checkFields h

end

end Options

namespace Engine

variable {σ : Type} [WordSource σ] (e : Engine σ) (schema : Schema) (count : UInt64) (runId : String) (source : σ)

def checkpoints : List (Walk σ) :=
  ((e.outing schema count false runId source).stops.takeWhile
    fun s => (s.fault? e.options.maxValues false).isNone).filterMap Stop.checkpoint?

def cancelPoint? (fired : Bool) : Option (Walk σ) :=
  (e.checkpoints schema count runId source).find? (fired || ·.fired)

variable {count}

lemma stops_outing_of_pos (h : 0 < count.toNat) (fired : Bool) : ∃ l,
    (e.outing schema count fired runId source).stops = .checkpoint (begin source fired (.new runId count)) :: l := by
  obtain ⟨n, hn⟩ : ∃ n, count.toNat = n + 1 := ⟨count.toNat - 1, by omega⟩
  rw [outing, hn, Tour.records, Tour.gather]
  exact ⟨_, rfl⟩

lemma cancelPoint?_of_pos (h : 0 < count.toNat) :
    e.cancelPoint? schema count runId source true = some (begin source false (.new runId count)) := by
  obtain ⟨l, hstops⟩ := e.stops_outing_of_pos schema runId source h false
  rw [cancelPoint?, checkpoints, hstops]
  rfl

variable {e schema runId source}

lemma run_fired_of_pos (hs : schema.Sized) (hl : e.options.checkLimits [] schema = .ok ()) (h : 0 < count.toNat) :
    e.run schema count (some true) runId source = ⟨.error (.cancelled 0), .new runId count, source⟩ := by
  obtain ⟨l, hstops⟩ := e.stops_outing_of_pos schema runId source h true
  rw [run_eq_upTo hs hl]
  simp only [Option.getD_some, Outing.upTo, hstops]
  rfl

lemma run_fired_of_zero (h : count.toNat = 0) :
    e.run schema count (some true) runId source = e.run schema count none runId source := by
  simp only [run, records, h, Walker.gather]
  rfl

lemma run_unfired (hs : schema.Sized) (hl : e.options.checkLimits [] schema = .ok ()) :
    e.run schema count (some false) runId source =
      match e.cancelPoint? schema count runId source false with
      | some w => .ofResult (.error (.cancelled w.recordsDone) w)
      | none => e.run schema count none runId source := by
  have hpoint : e.cancelPoint? schema count runId source false =
      (e.checkpoints schema count runId source).find? (·.fired) := rfl
  rw [run_eq_upTo hs hl, run_eq_upTo hs hl, hpoint, checkpoints]
  simp only [Option.getD_some, Option.getD_none, Option.isSome_some, Option.isSome_none, Outing.upTo_watched]
  split <;> rfl

lemma run_token_of_limits (hs : schema.Sized) (hl : e.options.checkLimits [] schema = .ok ()) (fired : Bool) :
    e.run schema count (some fired) runId source =
      match e.cancelPoint? schema count runId source fired with
      | some w => .ofResult (.error (.cancelled w.recordsDone) w)
      | none => e.run schema count none runId source := by
  cases fired with
  | false => exact run_unfired hs hl
  | true =>
    -- the first checkpoint is the start of the first record, so only a run for no records goes on
    cases h : count.toNat with
    | zero =>
      have hnone : e.cancelPoint? schema count runId source true = none := by
        rw [cancelPoint?, checkpoints, outing, h]
        rfl
      rw [hnone]
      exact run_fired_of_zero h
    | succ n =>
      have hpos : 0 < count.toNat := h ▸ Nat.succ_pos n
      rw [e.cancelPoint?_of_pos schema runId source hpos, run_fired_of_pos hs hl hpos]
      rfl

lemma recordsDone_lt (hs : schema.Sized) {token : Option Bool} {done : Nat}
    (h : (e.run schema count token runId source).outcome = .error (.cancelled done)) : done < count.toNat := by
  cases hl : e.options.checkLimits [] schema with
  | error fault =>
    rw [run_of_checkLimits_eq_error hl] at h
    cases h
    rcases Options.fault_of_checkLimits hl with hf | ⟨p, maxSize, hf⟩ <;> cases hf
  | ok =>
    rw [run_eq_upTo hs hl] at h
    cases hu : (e.outing schema count (token.getD false) runId source).upTo
      (Stop.fault? e.options.maxValues token.isSome) with
    | ok records w => simp [hu, Run.ofResult] at h
    | error fault w =>
      rw [hu] at h
      cases h
      obtain ⟨s, hmem, hf, -⟩ := Outing.exists_stop_of_error hu
      have hlt := recordsDone_lt_of_mem_stops e.registry e.options.imageBaseUrl hmem
      cases s with
      | node w => simp [Stop.fault?] at hf
      | checkpoint w =>
        have hdone : w.recordsDone = done := by simpa [Stop.fault?] using (Option.ite_some_none_eq_some.1 hf).2
        simpa [Stop.walk, begin, hdone] using hlt

theorem run_token (e : Engine σ) {schema : Schema} (hs : schema.Sized) (count : UInt64) (fired : Bool)
    (runId : String) (source : σ) :
    (e.options.checkLimits [] schema = .ok () →
      e.run schema count none runId source =
        .ofResult ((e.outing schema count false runId source).upTo (Stop.fault? e.options.maxValues false)) ∧
      ∀ w, e.cancelPoint? schema count runId source fired = some w →
        e.run schema count (some fired) runId source = .ofResult (.error (.cancelled w.recordsDone) w)) ∧
    ((e.options.checkLimits [] schema = .ok () → e.cancelPoint? schema count runId source fired = none) →
      e.run schema count (some fired) runId source = e.run schema count none runId source) ∧
    ((∀ w ∈ e.checkpoints schema count runId source, w.fired = false) →
      e.run schema count (some false) runId source = e.run schema count none runId source) ∧
    (∀ token done, (e.run schema count token runId source).outcome = .error (.cancelled done) →
      done < count.toNat) ∧
    (e.options.checkLimits [] schema = .ok () → 0 < count →
      e.run schema count (some true) runId source = ⟨.error (.cancelled 0), .new runId count, source⟩) := by
  have hsame (b : Bool)
      (h : e.options.checkLimits [] schema = .ok () → e.cancelPoint? schema count runId source b = none) :
      e.run schema count (some b) runId source = e.run schema count none runId source := by
    cases hl : e.options.checkLimits [] schema with
    | error fault => rw [run_of_checkLimits_eq_error hl, run_of_checkLimits_eq_error hl]
    | ok => rw [run_token_of_limits hs hl, h hl]
  refine ⟨fun hl => ⟨run_eq_upTo hs hl, fun w hw => ?_⟩, hsame fired, fun h => hsame false fun _ => ?_,
    fun token done h => recordsDone_lt hs h, fun hl h => run_fired_of_pos hs hl (UInt64.lt_iff_toNat_lt.1 h)⟩
  · rw [run_token_of_limits hs hl, hw]
  · simpa [cancelPoint?] using h

section

-- the second call of the generator fires the token
def cancellingEngine : Engine (Stage WordCycle) :=
  ⟨{}, Registry.register ⟨{}, .ofText "word" (pure "filler")⟩ (.scripted 0 "x" .callCount (some 2))⟩

def listSchema : Schema := .object [("a", .scalar "x"), ("b", .array 1 1 (.scalar "y"))]

theorem run_token_list :
    (∃ w, cancellingEngine.cancelPoint? listSchema 2 "" (.start ⟨#[0], 0⟩ 1) false = some w ∧ w.recordsDone = 1 ∧
      cancellingEngine.run listSchema 2 (some false) "" (.start ⟨#[0], 0⟩ 1) = .ofResult (.error (.cancelled 1) w)) ∧
    cancellingEngine.run listSchema 2 (some true) "" (.start ⟨#[0], 0⟩ 1) =
      ⟨.error (.cancelled 0), .new "" 2, .start ⟨#[0], 0⟩ 1⟩ ∧
    cancellingEngine.run listSchema 1 (some false) "" (.start ⟨#[0], 0⟩ 1) =
      cancellingEngine.run listSchema 1 none "" (.start ⟨#[0], 0⟩ 1) := by
  have hs : listSchema.Sized := by
    simp [listSchema, Schema.Everywhere, Schema.EverywhereIn, Schema.SizesOrdered]
  have hl : cancellingEngine.options.checkLimits [] listSchema = .ok () := by rfl
  have hpoint : (cancellingEngine.cancelPoint? listSchema 2 "" (.start ⟨#[0], 0⟩ 1) false).map (·.recordsDone) =
      some 1 := by decide +kernel
  have hquiet : ∀ w ∈ cancellingEngine.checkpoints listSchema 1 "" (.start ⟨#[0], 0⟩ 1), w.fired = false := by
    decide +kernel
  obtain ⟨w, hw, hdone⟩ := Option.map_eq_some_iff.1 hpoint
  obtain ⟨hcancel, -, -, -, hfired⟩ := run_token cancellingEngine hs 2 false "" (.start ⟨#[0], 0⟩ 1)
  obtain ⟨-, -, hnever, -⟩ := run_token cancellingEngine hs 1 false "" (.start ⟨#[0], 0⟩ 1)
  have hrun := (hcancel hl).2 w hw
  rw [hdone] at hrun
  exact ⟨⟨w, hw, hdone, hrun⟩, hfired hl (by decide), hnever hquiet⟩

end

end Engine

end Specimen
