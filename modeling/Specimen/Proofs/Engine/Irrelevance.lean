import Specimen.Proofs.Engine.Abreast
import Specimen.Proofs.Engine.Accounts

/-! What a schema carries and a run does not use: the categories of images, and the texts of tags that nothing
is registered under. -/

namespace Specimen

def Registry.Interchangeable {σ : Type} (r : Registry σ) (tag tag' : String) : Prop :=
  tag = tag' ∨ r.find? tag = none ∧ r.find? tag' = none

def Report.retold (runId : String) (durationMs : UInt64) (fallbackTags : SortedMap UInt64) (r : Report) : Report :=
  { r with runId, durationMs, fallbackTags }

structure Run.SameButTags {σ : Type} (r r' : Run σ) : Prop where
  outcome : r.outcome = r'.outcome
  source : r.source = r'.source
  report : ∃ runId durationMs fallbackTags, r'.report = r.report.retold runId durationMs fallbackTags
  total_fallbackTags : r.report.fallbackTags.total = r'.report.fallbackTags.total

namespace Report

structure TalliesAlike (n : Nat) (r r' : Report) : Prop where
  rest : ∃ runId durationMs fallbackTags, r' = r.retold runId durationMs fallbackTags
  tags : ∃ tags tags', tags.length = tags'.length ∧ tags.length ≤ n ∧ r.fallbackTags = countTags tags {} ∧
    r'.fallbackTags = countTags tags' {}

lemma countTag_countTags (tag : String) (tags : List String) (m : SortedMap UInt64) :
    countTag tag (countTags tags m) = countTags (tags ++ [tag]) m := by
  rw [countTags, countTags, List.foldl_append]
  rfl

namespace TalliesAlike

variable {n : Nat} {r r' : Report}

lemma new (runId runId' : String) (count : UInt64) : TalliesAlike 0 (.new runId count) (.new runId' count) where
  rest := ⟨runId', 0, {}, rfl⟩
  tags := ⟨[], [], rfl, Nat.le_refl 0, rfl, rfl⟩

lemma mono {m : Nat} (h : TalliesAlike n r r') (hle : n ≤ m) : TalliesAlike m r r' where
  rest := h.rest
  tags := by
    obtain ⟨tags, tags', hlen, hn, hr, hr'⟩ := h.tags
    exact ⟨tags, tags', hlen, Nat.le_trans hn hle, hr, hr'⟩

lemma change (h : TalliesAlike n r r') (f : Report → Report)
    (hf : ∀ r runId durationMs fallbackTags,
      f (r.retold runId durationMs fallbackTags) = (f r).retold runId durationMs fallbackTags) :
    TalliesAlike n (f r) (f r') := by
  obtain ⟨⟨runId, durationMs, fallbackTags, rfl⟩, htags⟩ := h
  have hr : (f r).fallbackTags = r.fallbackTags := by
    have hself := congrArg Report.fallbackTags (hf r r.runId r.durationMs r.fallbackTags)
    exact hself
  rw [hf]
  exact ⟨⟨runId, durationMs, fallbackTags, rfl⟩, hr ▸ htags⟩

lemma recordFallback (h : TalliesAlike n r r') (tag tag' : String) :
    TalliesAlike (n + 1) (r.recordFallback tag) (r'.recordFallback tag') := by
  obtain ⟨⟨runId, durationMs, _, rfl⟩, tags, tags', hlen, hn, hr, rfl⟩ := h
  refine ⟨⟨runId, durationMs, _, rfl⟩, tags ++ [tag], tags' ++ [tag'], ?_, ?_, ?_, countTag_countTags tag' tags' {}⟩
  · rw [List.length_append, List.length_append, hlen]
    rfl
  · rw [List.length_append]
    exact Nat.succ_le_succ hn
  · rw [← countTag_countTags, ← hr]
    rfl

lemma total_fallbackTags (h : TalliesAlike n r r') (hn : n < UInt64.size) :
    r.fallbackTags.total = r'.fallbackTags.total := by
  obtain ⟨tags, tags', hlen, hle, hr, hr'⟩ := h.tags
  have hsize : tags.length < UInt64.size := Nat.lt_of_le_of_lt hle hn
  rw [hr, hr', total_countTags hsize, total_countTags (hlen ▸ hsize), hlen]

end TalliesAlike

end Report

namespace Walker

def poll {σ : Type} (seen : Nat → Bool) : Walker σ Unit := fun w =>
  if w.fired || seen w.values then .error (.cancelled w.recordsDone) w else .ok () w

variable {σ : Type} {limit : UInt64} {R : Nat → Report → Report → Prop}

lemma poll_never : (poll fun _ => false : Walker σ Unit) = checkpoint true := by
  funext w
  simp [poll, checkpoint]

lemma staysLevel_poll (seen : Nat → Bool) : StaysLevel limit R 0 0 (poll seen : Walker σ Unit) (poll seen) := by
  intro w w' h
  rw [poll, poll, ← h.fired, ← h.values, ← h.recordsDone]
  split
  · exact .error _ h
  · exact .ok () h

end Walker

namespace Engine

open Report (TalliesAlike)
open Walker

variable {σ : Type} (e : Engine σ)

lemma staysLevel_scalar {tag tag' : String} (h : e.registry.Interchangeable tag tag') (limit : UInt64) :
    StaysLevel limit TalliesAlike 1 0 (e.scalar tag) (e.scalar tag') := by
  rcases h with rfl | ⟨htag, htag'⟩
  · rw [scalar]
    split
    · rename_i g _
      exact (staysLevel_record fun n r r' h => (h.mono (Nat.le_succ n)).change (Report.recordUsage g.tag)
        fun _ _ _ _ => rfl).bind fun _ => staysLevel_call g
    · exact (staysLevel_record fun n r r' h => h.recordFallback tag tag).bind fun _ => staysLevel_call _
  · rw [scalar, scalar, htag, htag']
    exact (staysLevel_record fun n r r' h => h.recordFallback tag tag').bind fun _ => staysLevel_call _

lemma corresponds_self : Corresponds e.registry.Interchangeable TalliesAlike e e where
  options := rfl
  scalar limit _ _ h := e.staysLevel_scalar h limit
  recordImage n _ _ h := (h.mono (Nat.le_succ n)).change Report.recordImage fun _ _ _ _ => rfl
  recordArray len _ _ _ h := h.change (Report.recordArray len) fun _ _ _ _ => rfl
  generated k _ _ _ h := h.change (fun r => { r with recordsGenerated := k }) fun _ _ _ _ => rfl
  new := .new

lemma sameButTags_of_level {limit : UInt64} {r r' : Run σ} (h : Run.Level limit TalliesAlike r r') :
    r.SameButTags r' := by
  obtain ⟨n, hn, hR⟩ := h.report
  exact ⟨h.outcome, h.source, hR.rest, hR.total_fallbackTags (Nat.lt_of_le_of_lt hn limit.toNat_lt)⟩

/-- Runs do not depend on what they do not use, whether or when a token is fired, and neither do their errors nor
their draws. Sources and generators may keep a log of what they are asked for, and thus the draws are the same one by
one. -/
theorem run_irrelevant [WordSource σ] (e : Engine σ) {s s' : Schema} (h : s.Matches e.registry.Interchangeable s')
    (count : UInt64) (runId runId' : String) (source : σ) :
    (∀ token, (e.run s count token runId source).SameButTags (e.run s' count token runId' source)) ∧
    (∀ seen fired, (e.checkedRun (poll seen) s count fired runId source).SameButTags
      (e.checkedRun (poll seen) s' count fired runId' source)) ∧
    ∀ fired, e.run s count (some fired) runId source =
      e.checkedRun (poll fun _ => false) s count fired runId source := by
  refine ⟨fun token => ?_, fun seen fired => ?_, fun fired => ?_⟩
  · exact sameButTags_of_level (level_run e.corresponds_self h count token runId runId' source)
  · exact sameButTags_of_level
      (level_checkedRun e.corresponds_self (staysLevel_poll seen) h count fired runId runId' source)
  · rw [run_eq_checkedRun, poll_never]
    rfl

section

def relabelledSchema : Schema :=
  .object [("a", .scalar "greeting"), ("b", .array 1 2 (.scalar "")), ("c", .image { category := "cats" })]

theorem run_irrelevant_greeting :
    greetingSchema.Matches greetingEngine.registry.Interchangeable relabelledSchema ∧
    (greetingEngine.run greetingSchema 2 none "1" ⟨#[0], 0⟩).SameButTags
      (greetingEngine.run relabelledSchema 2 none "2" ⟨#[0], 0⟩) ∧
    (greetingEngine.run greetingSchema 2 none "1" ⟨#[0], 0⟩).outcome.toOption.isSome ∧
    (greetingEngine.run greetingSchema 2 none "1" ⟨#[0], 0⟩).report.fallbackTags.keys = ["other"] ∧
    (greetingEngine.run relabelledSchema 2 none "2" ⟨#[0], 0⟩).report.fallbackTags.keys = [""] ∧
    (greetingEngine.checkedRun (poll (· == 5)) relabelledSchema 2 false "2" ⟨#[0], 0⟩).outcome =
      .error (.cancelled 1) := by
  have h : greetingSchema.Matches greetingEngine.registry.Interchangeable relabelledSchema :=
    .object (.cons "a" (.scalar (.inl rfl)) (.cons "b" (.array 1 2 (.scalar (.inr ⟨by decide, by decide⟩)))
      (.cons "c" (.image 200 200 "" "cats") .nil)))
  obtain ⟨hrun, hpolled, -⟩ := run_irrelevant greetingEngine h 2 "1" "2" ⟨#[0], 0⟩
  refine ⟨h, hrun none, by decide +kernel, by decide +kernel, by decide +kernel, ?_⟩
  rw [← (hpolled (· == 5) false).outcome]
  decide +kernel

end

end Engine

end Specimen
