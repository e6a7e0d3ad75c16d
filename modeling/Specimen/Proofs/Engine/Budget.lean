import Specimen.Proofs.Engine.Conformance
import Specimen.Proofs.Engine.Instances
import Specimen.Proofs.Engine.Stops

namespace Specimen

open EStateM (Result)

namespace Outing

variable {σ α : Type} {o : Outing σ α} {fault? : Stop σ → Option GenerationError}

lemma upTo_eq_ok_iff {a : α} {w : Walk σ} :
    o.upTo fault? = .ok a w ↔ (∀ s ∈ o.stops, fault? s = none) ∧ o.value = a ∧ o.walk = w := by
  have hnone : (o.stops.findSome? fun s => (fault? s).map (·, s.walk)) = none ↔ ∀ s ∈ o.stops, fault? s = none := by
    simp
  rw [upTo, ← hnone]
  cases o.stops.findSome? fun s => (fault? s).map (·, s.walk) with
  | none => simp
  | some fault => simp

end Outing

lemma Run.outcome_ofResult_eq_ok_iff {σ : Type} {x : Result GenerationError (Walk σ) Dataset} {records : Dataset} :
    (Run.ofResult x).outcome = .ok records ↔ ∃ w, x = .ok records w := by
  cases x with
  | ok l w => simp [Run.ofResult]
  | error fault w => simp [Run.ofResult]

section

variable {σ : Type}

lemma findSome?_fault? {limit : UInt64} {watched : Bool} {l : List (Stop σ)}
    (h : ∀ s ∈ l, watched → s.walk.fired = false) :
    (l.findSome? fun s => (s.fault? limit watched).map (·, s.walk)) =
      ((l.filterMap Stop.node?).find? fun w => limit.toNat ≤ w.values).map (.valueBudgetExceeded limit, ·) := by
  induction l with
  | nil => rfl
  | cons s r ih =>
    obtain ⟨hs, hr⟩ := List.forall_mem_cons.1 h
    rw [List.findSome?_cons]
    cases s with
    | node w =>
      have hnode : (Stop.node w).node? = some w := rfl
      rw [List.filterMap_cons_some hnode]
      by_cases hw : limit.toNat ≤ w.values
      · have hfault : (Stop.node w).fault? limit watched = some (.valueBudgetExceeded limit) := if_pos hw
        rw [hfault, List.find?_cons_of_pos (by simpa using hw)]
        rfl
      · have hfault : (Stop.node w).fault? limit watched = none := if_neg hw
        rw [hfault, List.find?_cons_of_neg (by simpa using hw)]
        exact ih hr
    | checkpoint w =>
      have hfault : (Stop.checkpoint w).fault? limit watched = none :=
        if_neg fun hw => by simp [Stop.walk, (Bool.and_eq_true_iff.1 hw).2, (Bool.and_eq_true_iff.1 hw).1] at hs
      rw [List.filterMap_cons_none rfl, hfault]
      exact ih hr

lemma fault?_eq_none_mono {limit more : UInt64} {watched : Bool} {s : Stop σ} (hle : limit ≤ more)
    (h : s.fault? limit watched = none) : s.fault? more watched = none := by
  cases s with
  | node w =>
    have hlimit : ¬ limit.toNat ≤ w.values := by simpa [Stop.fault?] using h
    have hle : limit.toNat ≤ more.toNat := UInt64.le_iff_toNat_le.1 hle
    exact if_neg (by omega)
  | checkpoint w => exact h

lemma find?_values {l : List (Walk σ)} {start limit : Nat} (h : l.map Walk.values = List.range' start l.length)
    (hs : start ≤ limit) : l.find? (fun w => limit ≤ w.values) = l[limit - start]? := by
  induction l generalizing start with
  | nil => rfl
  | cons w r ih =>
    rw [List.map_cons, List.length_cons, List.range'_succ, List.cons.injEq] at h
    by_cases hw : limit ≤ w.values
    · have hzero : limit - start = 0 := by omega
      simp [hw, hzero]
    · obtain ⟨k, hk⟩ : ∃ k, limit - start = k + 1 := ⟨limit - start - 1, by omega⟩
      have hnext : limit - (start + 1) = k := by omega
      rw [List.find?_cons_of_neg (by simpa using hw), ih h.2 (by omega), hk, hnext, List.getElem?_cons_succ]

end

lemma Outing.upTo_of_quiet {σ α : Type} {o : Outing σ α} {limit : UInt64} {watched : Bool}
    (h : ∀ s ∈ o.stops, watched → s.walk.fired = false)
    (hn : o.nodes.map Walk.values = List.range' 0 o.nodes.length) :
    o.upTo (Stop.fault? limit watched) =
      match o.nodes[limit.toNat]? with
      | some w => .error (.valueBudgetExceeded limit) w
      | none => .ok o.value o.walk := by
  have hfind : o.nodes.find? (fun w => limit.toNat ≤ w.values) = o.nodes[limit.toNat]? :=
    find?_values hn (Nat.zero_le _)
  rw [← hfind, upTo, findSome?_fault? h, nodes]
  cases (o.stops.filterMap Stop.node?).find? fun w => limit.toNat ≤ w.values <;> rfl

namespace Options

structure AtMost (o p : Options) : Prop where
  maxDepth : o.maxDepth ≤ p.maxDepth
  maxArrayLen : o.maxArrayLen ≤ p.maxArrayLen
  maxValues : o.maxValues ≤ p.maxValues
  imageBaseUrl : o.imageBaseUrl = p.imageBaseUrl

variable {o p : Options}

mutual

lemma checkLimits_mono (hp : o.AtMost p) {path : Schema.Path} : {s : Schema} →
    o.checkLimits path s = .ok () → p.checkLimits path s = .ok ()
  | .scalar _, h | .image _, h => by
    rw [checkLimits] at h ⊢
    split at h
    · cases h
    · rw [if_neg (by have := UInt64.le_iff_toNat_le.1 hp.maxDepth; omega)]
  | .object fields, h => by
    rw [checkLimits] at h ⊢
    split at h
    · cases h
    · rw [if_neg (by have := UInt64.le_iff_toNat_le.1 hp.maxDepth; omega)]
      exact checkFields_mono hp h
  | .array _ maxSize element, h => by
    rw [checkLimits] at h ⊢
    split at h
    · cases h
    · split at h
      · cases h
      · rename_i hlen
        have hfits : ¬ p.maxArrayLen < maxSize :=
          UInt64.not_lt.2 (UInt64.le_trans (UInt64.not_lt.1 hlen) hp.maxArrayLen)
        rw [if_neg (by have := UInt64.le_iff_toNat_le.1 hp.maxDepth; omega), if_neg hfits]
        exact checkLimits_mono hp h

lemma checkFields_mono (hp : o.AtMost p) {path : Schema.Path} : {l : List (String × Schema)} →
    o.checkFields path l = .ok () → p.checkFields path l = .ok ()
  | [], _ => rfl
  | (name, s) :: rest, h => by
    rw [checkFields] at h ⊢
    split at h
    · cases h
    · rename_i hs
      rw [checkLimits_mono hp hs]
      exact checkFields_mono hp h

end

end Options

namespace Engine

variable {σ : Type} [WordSource σ] {e : Engine σ} {schema : Schema} {count : UInt64} {token : Option Bool}
  {fired : Bool} {runId : String} {source : σ}

lemma values_of_nodes {k : Nat} {w : Walk σ} (h : (e.outing schema count fired runId source).nodes[k]? = some w) :
    w.values = k := by
  obtain ⟨hlt, hk⟩ := List.getElem?_eq_some_iff.1 h
  have hmap : ((e.outing schema count fired runId source).nodes.map Walk.values)[k]? = some w.values := by
    rw [List.getElem?_map, h, Option.map_some]
  rw [values_nodes_outing, List.getElem?_range' hlt] at hmap
  simpa using (Option.some.inj hmap).symm

lemma length_nodes_le {limit : UInt64} {watched : Bool}
    (h : ∀ s ∈ (e.outing schema count fired runId source).stops, s.fault? limit watched = none) :
    (e.outing schema count fired runId source).nodes.length ≤ limit.toNat := by
  -- the nodes are numbered, so one more than the limit would be a fault itself
  refine Nat.le_of_not_lt fun hlt => ?_
  have hw := List.getElem?_eq_getElem hlt
  obtain ⟨s, hmem, hnode⟩ := List.mem_filterMap.1 (List.mem_of_getElem? hw)
  have hvalues := values_of_nodes hw
  cases s with
  | node w =>
    cases hnode
    exact absurd (h _ hmem) (by simp [Stop.fault?, hvalues])
  | checkpoint w => cases hnode

lemma run_of_ok (hs : schema.Sized) {records : Dataset}
    (h : (e.run schema count token runId source).outcome = .ok records) :
    (∀ s ∈ (e.outing schema count (token.getD false) runId source).stops,
        s.fault? e.options.maxValues token.isSome = none) ∧
      (e.outing schema count (token.getD false) runId source).value = records ∧
      e.run schema count token runId source =
        .ofResult (.ok records (e.outing schema count (token.getD false) runId source).walk) := by
  obtain ⟨hl, -⟩ := e.records_of_run h
  rw [run_eq_upTo hs hl] at h
  obtain ⟨w, hw⟩ := Run.outcome_ofResult_eq_ok_iff.1 h
  obtain ⟨hstops, hvalue, hwalk⟩ := Outing.upTo_eq_ok_iff.1 hw
  refine ⟨hstops, hvalue, ?_⟩
  rw [run_eq_upTo hs hl, hw, hwalk]

def Unfired (e : Engine σ) (schema : Schema) (count : UInt64) (token : Option Bool) (runId : String) (source : σ) :
    Prop :=
  token = none ∨ token = some false ∧ (e.outing schema count false runId source).walk.fired = false

lemma run_eq_of_unfired (hs : schema.Sized) (hl : e.options.checkLimits [] schema = .ok ())
    (hq : e.Unfired schema count token runId source) :
    e.run schema count token runId source = .ofResult
      (match (e.outing schema count false runId source).nodes[e.options.maxValues.toNat]? with
        | some w => .error (.valueBudgetExceeded e.options.maxValues) w
        | none => .ok (e.outing schema count false runId source).value
            (e.outing schema count false runId source).walk) := by
  have hfired : token.getD false = false := by
    rcases hq with rfl | ⟨rfl, -⟩ <;> rfl
  have hquiet : ∀ s ∈ (e.outing schema count false runId source).stops, token.isSome → s.walk.fired = false := by
    -- a token that was fired at any stop would still be so at the end
    intro s hmem hsome
    rcases hq with rfl | ⟨rfl, hend⟩
    · cases hsome
    · cases hf : s.walk.fired with
      | false => rfl
      | true => exact absurd (staysFired_outing.stops s hmem hf) (by simp [hend])
  rw [run_eq_upTo hs hl, hfired, Outing.upTo_of_quiet hquiet values_nodes_outing]

structure Budgeted (o : Outing σ Dataset) (limit : UInt64) (run : Run σ) : Prop where
  succeeds : (∃ records, run.outcome = .ok records) ↔ o.nodes.length ≤ limit.toNat
  unnoticed : o.nodes.length ≤ limit.toNat → run = .ofResult (.ok o.value o.walk)
  exceeded : limit.toNat < o.nodes.length → ∃ w, o.nodes[limit.toNat]? = some w ∧ w.values = limit.toNat ∧
    run = .ofResult (.error (.valueBudgetExceeded limit) w)

lemma budgeted_of_unfired (hs : schema.Sized) (hl : e.options.checkLimits [] schema = .ok ())
    (hq : e.Unfired schema count token runId source) :
    Budgeted (e.outing schema count false runId source) e.options.maxValues
      (e.run schema count token runId source) := by
  have hrun := run_eq_of_unfired hs hl hq
  by_cases hlen : (e.outing schema count false runId source).nodes.length ≤ e.options.maxValues.toNat
  · rw [List.getElem?_eq_none hlen] at hrun
    exact ⟨by simp [hrun, Run.ofResult, hlen], fun _ => hrun, fun h => absurd h (Nat.not_lt.2 hlen)⟩
  · obtain ⟨w, hw⟩ : ∃ w, (e.outing schema count false runId source).nodes[e.options.maxValues.toNat]? = some w :=
      ⟨_, List.getElem?_eq_getElem (Nat.lt_of_not_le hlen)⟩
    rw [hw] at hrun
    exact ⟨by simp [hrun, Run.ofResult, hlen], fun h => absurd h hlen, fun _ => ⟨w, hw, values_of_nodes hw, hrun⟩⟩

lemma length_nodes_of_distinct (h : schema.Distinct) :
    (e.outing schema count fired runId source).nodes.length =
      ((e.outing schema count fired runId source).value.flatMap Json.parts).length := by
  have hnotes := Tour.notes_records e.registry e.options.imageBaseUrl h count.toNat
    (begin source fired (.new runId count))
  have hshows := Tour.shows_records e.registry e.options.imageBaseUrl h count.toNat
    (begin source fired (.new runId count))
  have hvalues := hnotes.values.symm.trans numbered_outing.values
  rw [outing, ← hshows.snd, List.length_map]
  exact (Nat.add_left_cancel hvalues).symm

lemma run_eq_of_atMost {p : Options} (hs : schema.Sized) (hp : e.options.AtMost p) {records : Dataset}
    (h : (e.run schema count token runId source).outcome = .ok records) :
    (Engine.mk p e.registry).run schema count token runId source = e.run schema count token runId source := by
  obtain ⟨hl, -⟩ := e.records_of_run h
  obtain ⟨hstops, -⟩ := run_of_ok hs h
  have hsame : (Engine.mk p e.registry).outing schema count (token.getD false) runId source =
      e.outing schema count (token.getD false) runId source := by
    simp only [outing, hp.imageBaseUrl]
  rw [run_eq_upTo hs hl, run_eq_upTo hs (Options.checkLimits_mono hp hl), hsame,
    Outing.upTo_eq_ok_iff.2 ⟨hstops, rfl, rfl⟩,
    Outing.upTo_eq_ok_iff.2 ⟨fun s hmem => fault?_eq_none_mono hp.maxValues (hstops s hmem), rfl, rfl⟩]

theorem run_budget (e : Engine σ) {schema : Schema} (hs : schema.Sized) (count : UInt64) (runId : String)
    (source : σ) :
    (∀ token, e.options.checkLimits [] schema = .ok () → e.Unfired schema count token runId source →
      Budgeted (e.outing schema count false runId source) e.options.maxValues
        (e.run schema count token runId source)) ∧
    (schema.Distinct → (e.outing schema count false runId source).nodes.length =
      ((e.outing schema count false runId source).value.flatMap Json.parts).length) ∧
    ∀ token p, e.options.AtMost p → (∃ records, (e.run schema count token runId source).outcome = .ok records) →
      (Engine.mk p e.registry).run schema count token runId source = e.run schema count token runId source := by
  refine ⟨fun token hl hq => budgeted_of_unfired hs hl hq, length_nodes_of_distinct, ?_⟩
  rintro token p hp ⟨records, h⟩
  exact run_eq_of_atMost hs hp h

section

def tightEngine : Engine WordCycle := ⟨{ maxValues := 4 }, plainEngine.registry⟩

def pairSchema : Schema := .object [("a", .scalar "x"), ("b", .array 1 2 (.image {}))]

theorem run_budget_pair :
    (∃ w, (tightEngine.outing pairSchema 2 false "" ⟨#[0], 0⟩).nodes[4]? = some w ∧ w.values = 4 ∧
      tightEngine.run pairSchema 2 (some false) "" ⟨#[0], 0⟩ = .ofResult (.error (.valueBudgetExceeded 4) w)) ∧
    (tightEngine.outing pairSchema 1 false "" ⟨#[0], 0⟩).nodes.length =
      ((tightEngine.outing pairSchema 1 false "" ⟨#[0], 0⟩).value.flatMap Json.parts).length ∧
    plainEngine.run pairSchema 1 none "" ⟨#[0], 0⟩ = tightEngine.run pairSchema 1 none "" ⟨#[0], 0⟩ := by
  have hs : pairSchema.Sized := by
    simp [pairSchema, Schema.Everywhere, Schema.EverywhereIn, Schema.SizesOrdered]
  have hd : pairSchema.Distinct := by
    simp [pairSchema, Schema.Everywhere, Schema.EverywhereIn, Schema.NamesDistinct, Entries.keys]
  have hl : tightEngine.options.checkLimits [] pairSchema = .ok () := by rfl
  have hquiet : (tightEngine.outing pairSchema 2 false "" ⟨#[0], 0⟩).walk.fired = false := by decide +kernel
  have hlong : (tightEngine.outing pairSchema 2 false "" ⟨#[0], 0⟩).nodes.length = 8 := by decide +kernel
  have hfits : (tightEngine.outing pairSchema 1 false "" ⟨#[0], 0⟩).nodes.length = 4 := by decide +kernel
  have hmore : tightEngine.options.AtMost plainEngine.options := ⟨by decide, by decide, by decide, rfl⟩
  obtain ⟨htwo, -, -⟩ := run_budget tightEngine hs 2 "" ⟨#[0], 0⟩
  obtain ⟨hone, hparts, hraise⟩ := run_budget tightEngine hs 1 "" ⟨#[0], 0⟩
  have hok := (hone none hl (.inl rfl)).succeeds.2 (Nat.le_of_eq hfits)
  exact ⟨(htwo (some false) hl (.inr ⟨rfl, hquiet⟩)).exceeded (hlong ▸ (by decide : 4 < 8)), hparts hd,
    hraise none plainEngine.options hmore hok⟩

end

end Engine

end Specimen
