import Specimen.Proofs.Engine.Abreast
import Specimen.Proofs.Engine.Budget
import Specimen.Proofs.Schema.Nodes
import Specimen.Proofs.Text.ByteOrder

namespace Specimen

namespace Registry

variable {σ : Type} (r : Registry σ) (tag : String)

def registerAll (gs : List (Generator σ)) : Registry σ := gs.foldl register r

def lastFor? (gs : List (Generator σ)) : Option (Generator σ) := gs.reverse.find? (·.tag = tag)

lemma lastFor?_append (gs gs' : List (Generator σ)) :
    lastFor? tag (gs ++ gs') = (lastFor? tag gs').or (lastFor? tag gs) := by
  rw [lastFor?, List.reverse_append, List.find?_append]
  rfl

lemma lastFor?_cons (g : Generator σ) (gs : List (Generator σ)) :
    lastFor? tag (g :: gs) = (lastFor? tag gs).or (if tag = g.tag then some g else none) := by
  rw [← List.singleton_append, lastFor?_append]
  by_cases h : tag = g.tag
  · simp [lastFor?, h]
  · simp [lastFor?, h, Ne.symm h]

lemma lastFor?_isSome_iff {gs : List (Generator σ)} : (lastFor? tag gs).isSome ↔ ∃ g ∈ gs, g.tag = tag := by
  simp [lastFor?]

lemma fallback_registerAll (gs : List (Generator σ)) : (r.registerAll gs).fallback = r.fallback := by
  induction gs generalizing r with
  | nil => rfl
  | cons g gs ih => exact ih (r.register g)

lemma find?_registerAll (gs : List (Generator σ)) :
    (r.registerAll gs).find? tag = (lastFor? tag gs).or (r.find? tag) := by
  induction gs generalizing r with
  | nil => rfl
  | cons g gs ih =>
    have hstep : r.registerAll (g :: gs) = (r.register g).registerAll gs := rfl
    rw [hstep, ih, find?_register, lastFor?_cons, Option.or_assoc]
    congr 1
    split <;> rfl

variable {r tag}

lemma mem_tags_iff : tag ∈ r.tags ↔ (r.find? tag).isSome := by
  rw [tags, SortedMap.mem_keys_iff, find?, Option.isSome_map, Option.isSome_iff_ne_none]

lemma mem_tags_registerAll_iff {gs : List (Generator σ)} :
    tag ∈ (r.registerAll gs).tags ↔ tag ∈ r.tags ∨ ∃ g ∈ gs, g.tag = tag := by
  rw [mem_tags_iff, mem_tags_iff, find?_registerAll, Option.isSome_or, Bool.or_eq_true, lastFor?_isSome_iff, or_comm]

lemma ext_find? {r' : Registry σ} (h : ∀ tag, r.find? tag = r'.find? tag) (hfallback : r.fallback = r'.fallback) :
    r = r' := by
  obtain ⟨generators, fallback⟩ := r
  obtain ⟨generators', fallback'⟩ := r'
  have hgenerators : generators = generators' := SortedMap.ext_find? fun tag => by
    have hinj : Function.Injective fun m : StateM σ Sample => (⟨tag, m⟩ : Generator σ) :=
      fun _ _ he => congrArg Generator.generate he
    exact Option.map_injective hinj (h tag)
  cases hgenerators
  cases hfallback
  rfl

lemma registerAll_congr {gs gs' : List (Generator σ)} (h : ∀ tag, lastFor? tag gs = lastFor? tag gs') :
    r.registerAll gs = r.registerAll gs' := by
  refine ext_find? (fun tag => ?_) ?_
  · rw [find?_registerAll, find?_registerAll, h]
  · rw [fallback_registerAll, fallback_registerAll]

lemma lastFor?_swap {g g' : Generator σ} (h : g.tag ≠ g'.tag) (gs gs' : List (Generator σ)) (tag : String) :
    lastFor? tag (gs ++ g :: g' :: gs') = lastFor? tag (gs ++ g' :: g :: gs') := by
  simp only [lastFor?_append, lastFor?_cons, Option.or_assoc]
  congr 1
  by_cases hg : tag = g.tag
  · rw [if_neg (hg ▸ h), if_pos hg]
    rfl
  · rw [if_neg hg]
    simp

lemma lastFor?_insert {g : Generator σ} (h : tag ≠ g.tag) (gs gs' : List (Generator σ)) :
    lastFor? tag (gs ++ g :: gs') = lastFor? tag (gs ++ gs') := by
  rw [lastFor?_append, lastFor?_append, lastFor?_cons, if_neg h, Option.or_none]

end Registry

namespace Schema

def Mentions (s : Schema) (tag : String) : Prop := ∃ path, (path, .scalar tag) ∈ s.nodes []

mutual

lemma matches_self {P : String → String → Prop} : {s : Schema} →
    s.Everywhere (fun t => ∀ tag, t = .scalar tag → P tag tag) → s.Matches P s
  | .scalar tag, h => .scalar (h tag rfl)
  | .image spec, _ => .image spec.width spec.height spec.category spec.category
  | .object _, h => .object (matchesEach_self h.2)
  | .array minSize maxSize _, h => .array minSize maxSize (matches_self h.2)

lemma matchesEach_self {P : String → String → Prop} : {fields : List (String × Schema)} →
    EverywhereIn (fun t => ∀ tag, t = .scalar tag → P tag tag) fields → MatchesEach P fields fields
  | [], _ => .nil
  | (name, _) :: _, h => .cons name (matches_self h.1) (matchesEach_self h.2)

end

lemma matches_of_mentions {P : String → String → Prop} {s : Schema} (h : ∀ tag, s.Mentions tag → P tag tag) :
    s.Matches P s :=
  matches_self ((everywhere_iff []).2 fun ⟨path, _⟩ hmem tag ht => h tag ⟨path, ht ▸ hmem⟩)

end Schema

def Report.IsRenamed (r r' : Report) : Prop := ∃ runId durationMs, r' = { r with runId, durationMs }

structure Run.SameButName {σ : Type} (r r' : Run σ) : Prop where
  outcome : r.outcome = r'.outcome
  source : r.source = r'.source
  report : r.report.IsRenamed r'.report

lemma Report.IsRenamed.change {r r' : Report} (h : r.IsRenamed r') (f : Report → Report)
    (hf : ∀ (r : Report) runId durationMs, f { r with runId, durationMs } = { f r with runId, durationMs }) :
    (f r).IsRenamed (f r') := by
  obtain ⟨runId, durationMs, rfl⟩ := h
  exact ⟨runId, durationMs, hf r runId durationMs⟩

namespace Engine

open Walker

variable {σ : Type}

/-- Whatever is asked for, with and without a token, the engines make the same of the schema. -/
def ActsAs [WordSource σ] (e e' : Engine σ) (s : Schema) : Prop :=
  ∀ count token runId runId' source,
    (e.run s count token runId source).SameButName (e'.run s count token runId' source)

section

variable (o : Options) {r r' : Registry σ}

lemma corresponds_of_find? (hfallback : r.fallback = r'.fallback) :
    Corresponds (fun tag tag' => tag = tag' ∧ r.find? tag = r'.find? tag) (fun _ => Report.IsRenamed)
      (⟨o, r⟩ : Engine σ) ⟨o, r'⟩ where
  options := rfl
  scalar limit tag _ h := by
    obtain ⟨rfl, hfind⟩ := h
    simp only [scalar, ← hfind, ← hfallback]
    split
    · exact (staysLevel_record fun _ _ _ h => h.change (Report.recordUsage _) fun _ _ _ => rfl).bind fun _ =>
        staysLevel_call _
    · exact (staysLevel_record fun _ _ _ h => h.change (Report.recordFallback tag) fun _ _ _ => rfl).bind fun _ =>
        staysLevel_call _
  recordImage _ _ _ h := h.change Report.recordImage fun _ _ _ => rfl
  recordArray len _ _ _ h := h.change (Report.recordArray len) fun _ _ _ => rfl
  generated k _ _ _ h := h.change (fun r => { r with recordsGenerated := k }) fun _ _ _ => rfl
  new _ runId' _ := ⟨runId', 0, rfl⟩

variable [WordSource σ] {s : Schema}

lemma actsAs_of_find? (hfallback : r.fallback = r'.fallback)
    (h : ∀ tag, s.Mentions tag → r.find? tag = r'.find? tag) : ActsAs ⟨o, r⟩ ⟨o, r'⟩ s := by
  intro count token runId runId' source
  have hs := Schema.matches_of_mentions (P := fun tag tag' => tag = tag' ∧ r.find? tag = r'.find? tag) fun tag ht =>
    ⟨rfl, h tag ht⟩
  have hlevel := level_run (corresponds_of_find? o hfallback) hs count token runId runId' source
  obtain ⟨_, _, hreport⟩ := hlevel.report
  exact ⟨hlevel.outcome, hlevel.source, hreport⟩

lemma actsAs_registerAll {gs gs' : List (Generator σ)}
    (h : ∀ tag, s.Mentions tag → Registry.lastFor? tag gs = Registry.lastFor? tag gs') :
    ActsAs ⟨o, r.registerAll gs⟩ ⟨o, r.registerAll gs'⟩ s := by
  refine actsAs_of_find? o ?_ fun tag ht => ?_
  · rw [Registry.fallback_registerAll, Registry.fallback_registerAll]
  · rw [Registry.find?_registerAll, Registry.find?_registerAll, h tag ht]

end

/-- What is registered can be found under its own tag alone, until something else is registered there, and never
takes the place of the fallback. -/
theorem registration_local [WordSource σ] (r : Registry σ) (gs : List (Generator σ)) :
    (r.registerAll gs).tags.Pairwise (fun tag tag' => Text.bytes tag < Text.bytes tag') ∧
    (∀ tag, tag ∈ (r.registerAll gs).tags ↔ tag ∈ r.tags ∨ ∃ g ∈ gs, g.tag = tag) ∧
    (∀ tag, (r.registerAll gs).find? tag = (Registry.lastFor? tag gs).or (r.find? tag)) ∧
    (r.registerAll gs).fallback = r.fallback ∧
    (∀ gs' s, (∀ tag, s.Mentions tag → Registry.lastFor? tag gs = Registry.lastFor? tag gs') →
      ∀ o, ActsAs ⟨o, r.registerAll gs⟩ ⟨o, r.registerAll gs'⟩ s) ∧
    (∀ g g' gs', g.tag ≠ g'.tag → r.registerAll (gs ++ g :: g' :: gs') = r.registerAll (gs ++ g' :: g :: gs')) ∧
    ∀ g gs' s, ¬ s.Mentions g.tag →
      ∀ o, ActsAs ⟨o, r.registerAll (gs ++ g :: gs')⟩ ⟨o, r.registerAll (gs ++ gs')⟩ s := by
  refine ⟨(r.registerAll gs).tags_sorted.imp Text.bytes_lt_iff.2, fun _ => Registry.mem_tags_registerAll_iff,
    fun tag => r.find?_registerAll tag gs, r.fallback_registerAll gs, fun gs' s h o => actsAs_registerAll o h,
    fun g g' gs' h => Registry.registerAll_congr (Registry.lastFor?_swap h gs gs'),
    fun g gs' s h o => actsAs_registerAll o fun tag ht => ?_⟩
  have hne : tag ≠ g.tag := fun he => h (he ▸ ht)
  exact Registry.lastFor?_insert hne gs gs'

section

def saying (tag text : String) : Generator WordCycle := .ofText tag (pure text)

theorem registration_local_pair :
    (plainEngine.registry.registerAll [saying "x" "first", saying "x" "last"]).find? "x" = some (saying "x" "last") ∧
    (plainEngine.registry.registerAll [saying "word" "known"]).fallback = .ofText "word" (pure "filler") ∧
    ActsAs ⟨{}, plainEngine.registry.registerAll [saying "x" "first", saying "x" "last"]⟩
      ⟨{}, plainEngine.registry.registerAll [saying "x" "last", saying "word" "known"]⟩ pairSchema ∧
    plainEngine.registry.registerAll [saying "x" "last", saying "word" "known"] =
      plainEngine.registry.registerAll [saying "word" "known", saying "x" "last"] ∧
    ActsAs ⟨{}, plainEngine.registry.registerAll [saying "x" "last", saying "word" "known"]⟩
      ⟨{}, plainEngine.registry.registerAll [saying "x" "last"]⟩ pairSchema := by
  have hmentions : ∀ tag, pairSchema.Mentions tag → tag = "x" := by
    simp [Schema.Mentions, pairSchema, Schema.nodes, Schema.nodesOfFields]
  obtain ⟨-, -, hfind, -, hsame, -⟩ :=
    registration_local plainEngine.registry [saying "x" "first", saying "x" "last"]
  obtain ⟨-, -, -, hfallback, -⟩ := registration_local plainEngine.registry [saying "word" "known"]
  obtain ⟨-, -, -, -, -, hswap, -⟩ := registration_local plainEngine.registry ([] : List (Generator WordCycle))
  obtain ⟨-, -, -, -, -, -, hlater⟩ := registration_local plainEngine.registry [saying "x" "last"]
  refine ⟨hfind "x", hfallback, hsame _ _ (fun tag ht => ?_) {}, hswap _ _ [] (by decide),
    hlater (saying "word" "known") [] _ (fun ht => ?_) {}⟩
  · rw [hmentions tag ht]
    rfl
  · exact absurd (hmentions _ ht) (by decide)

end

end Engine

end Specimen
