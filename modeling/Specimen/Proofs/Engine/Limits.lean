import Specimen.Proofs.Engine.Counters
import Specimen.Proofs.Engine.Lengths
import Specimen.Proofs.Engine.Nesting
import Specimen.Proofs.Engine.Tour
import Specimen.Proofs.Schema.Nodes

namespace Specimen

namespace Options

variable (o : Options)

def breach? (p : Schema.Path × Schema) : Option GenerationError :=
  if o.maxDepth.toNat < p.1.level then some (.depthExceeded o.maxDepth)
  else
    match p.2 with
    | .array _ maxSize _ =>
      if o.maxArrayLen < maxSize then some (.arrayTooLarge p.1 maxSize o.maxArrayLen) else none
    | _ => none

def firstBreach? (s : Schema) : Option GenerationError := (s.nodes []).findSome? o.breach?

def Exceeded (s : Schema) : Prop :=
  o.maxDepth.toNat < s.depth ∨ ∃ path minSize maxSize element,
    (path, .array minSize maxSize element) ∈ s.nodes [] ∧ path.level ≤ o.maxDepth.toNat ∧ o.maxArrayLen < maxSize

mutual

lemma checkLimits_eq (path : Schema.Path) : (s : Schema) →
    o.checkLimits path s = ((s.nodes path).findSome? o.breach?).elim (.ok ()) .error
  | .scalar _ | .image _ => by
    rw [checkLimits, Schema.nodes, List.findSome?_singleton, breach?]
    split <;> rfl
  | .object fields => by
    rw [checkLimits, Schema.nodes, List.findSome?_cons, breach?]
    split
    · rfl
    · exact checkFields_eq path fields
  | .array _ maxSize element => by
    rw [checkLimits, Schema.nodes, List.findSome?_cons, breach?]
    split
    · rfl
    · dsimp only
      split
      · rfl
      · exact checkLimits_eq (.element :: path) element

lemma checkFields_eq (path : Schema.Path) : (fields : List (String × Schema)) →
    o.checkFields path fields = ((Schema.nodesOfFields path fields).findSome? o.breach?).elim (.ok ()) .error
  | [] => rfl
  | (name, s) :: rest => by
    rw [checkFields, Schema.nodesOfFields, List.findSome?_append, checkLimits_eq (.field name :: path) s,
      checkFields_eq path rest]
    cases (s.nodes (.field name :: path)).findSome? o.breach? <;> rfl

end

variable {o}

lemma breach?_eq_none_iff {p : Schema.Path × Schema} :
    o.breach? p = none ↔ p.1.level ≤ o.maxDepth.toNat ∧ p.2.FitsIn o.maxArrayLen := by
  obtain ⟨path, s⟩ := p
  rw [breach?]
  split
  · rename_i hlevel
    have hdeep : ¬ path.level ≤ o.maxDepth.toNat := Nat.not_le.2 hlevel
    simp [hdeep]
  · rename_i hlevel
    have hle : path.level ≤ o.maxDepth.toNat := Nat.le_of_not_lt hlevel
    cases s with
    | array minSize maxSize element => simp [Schema.FitsIn, hle, UInt64.not_lt]
    | scalar | object | image => simp [Schema.FitsIn, hle]

lemma isBreach_of_breach? {p : Schema.Path × Schema} {fault : GenerationError} (h : o.breach? p = some fault) :
    fault.IsBreach := by
  rw [breach?] at h
  split at h
  · cases h
    exact .depthExceeded _
  · split at h
    · split at h
      · cases h
        exact .arrayTooLarge _ _ _
      · cases h
    · cases h

lemma isBreach_of_firstBreach? {s : Schema} {fault : GenerationError} (h : o.firstBreach? s = some fault) :
    fault.IsBreach := by
  obtain ⟨p, -, hp⟩ := List.exists_of_findSome?_eq_some h
  exact isBreach_of_breach? hp

lemma firstBreach?_eq_none_iff {s : Schema} :
    o.firstBreach? s = none ↔ s.depth ≤ o.maxDepth.toNat ∧ s.Everywhere (Schema.FitsIn o.maxArrayLen) := by
  rw [firstBreach?, List.findSome?_eq_none_iff, Schema.depth_le_iff, Schema.everywhere_iff [], ← forall₂_and]
  exact forall₂_congr fun _ _ => breach?_eq_none_iff

lemma firstBreach?_eq_some_iff {s : Schema} {fault : GenerationError} :
    o.firstBreach? s = some fault ↔ o.checkLimits [] s = .error fault := by
  rw [checkLimits_eq, firstBreach?]
  cases (s.nodes []).findSome? o.breach? <;> simp

lemma checkLimits_eq_ok_iff {s : Schema} : o.checkLimits [] s = .ok () ↔ o.firstBreach? s = none := by
  rw [checkLimits_eq, firstBreach?]
  cases (s.nodes []).findSome? o.breach? <;> simp

lemma exceeded_iff {s : Schema} : o.Exceeded s ↔ ∃ fault, o.firstBreach? s = some fault := by
  rw [← Option.ne_none_iff_exists', Ne, firstBreach?_eq_none_iff, not_and_or, Nat.not_le, Exceeded,
    Schema.everywhere_iff []]
  -- if the schema is not too deep, no array of it lies beyond the greatest level
  refine or_congr_right' fun hdepth => ?_
  have hlevel := Schema.depth_le_iff.1 (Nat.not_lt.1 hdepth)
  constructor
  · rintro ⟨path, minSize, maxSize, element, hmem, -, hlarge⟩ hfits
    exact UInt64.not_lt.2 (hfits _ hmem) hlarge
  · intro h
    simp only [not_forall, exists_prop] at h
    obtain ⟨⟨path, t⟩, hmem, hlarge⟩ := h
    cases t with
    | array minSize maxSize element =>
      exact ⟨path, minSize, maxSize, element, hmem, hlevel _ hmem, UInt64.not_le.1 hlarge⟩
    | scalar | object | image => exact absurd trivial hlarge

end Options

namespace Engine

variable {σ : Type} [WordSource σ] (e : Engine σ)

structure Refuses (schema : Schema) (fault : GenerationError) : Prop where
  run : ∀ count token runId source,
    e.run schema count token runId source = ⟨.error fault, .new runId count, source⟩
  generate : ∀ source, e.generate schema source = (.error fault, source)

structure Admits (schema : Schema) : Prop where
  depth_le : schema.depth ≤ e.options.maxDepth.toNat
  run_mishap : ∀ count token runId source fault,
    (e.run schema count token runId source).outcome = .error fault → fault.IsMishap
  generate_mishap : ∀ source fault, (e.generate schema source).1 = .error fault → fault.IsMishap
  run_length : ∀ count token runId source len,
    e.DrawsInRun schema count token runId source len → len ≤ e.options.maxArrayLen
  generate_length : ∀ source len,
    e.Draws false schema (begin source false {}) len → len ≤ e.options.maxArrayLen
  run_drawn : ∀ count token runId source records,
    (e.run schema count token runId source).outcome = .ok records → ∀ v ∈ records, ∀ items, .arr items ∈ v.parts →
      ∃ len, e.DrawsInRun schema count token runId source len ∧ items.length = len.toNat
  run_nesting : ∀ count token runId source records,
    (e.run schema count token runId source).outcome = .ok records →
      ∀ v ∈ records, v.nesting ≤ e.options.maxDepth.toNat
  generate_nesting : ∀ source v, (e.generate schema source).1 = .ok v → v.nesting ≤ e.options.maxDepth.toNat

section

variable {e} {schema : Schema} {fault : GenerationError}

lemma refuses_of_checkLimits (h : e.options.checkLimits [] schema = .error fault) : e.Refuses schema fault :=
  ⟨fun _ _ _ _ => run_of_checkLimits_eq_error h, fun _ => by rw [generate, h]⟩

lemma mishap_of_run {count : UInt64} {token : Option Bool} {runId : String} {source : σ}
    (h : e.options.checkLimits [] schema = .ok ())
    (hr : (e.run schema count token runId source).outcome = .error fault) : fault.IsMishap := by
  rw [run, h] at hr
  cases hw : e.records token.isSome schema count.toNat (begin source (token.getD false) (.new runId count)) with
  | ok records w => simp [hw] at hr
  | error fault' w =>
    simp only [hw, Except.error.injEq] at hr
    exact hr ▸ (e.ensures_records token.isSome schema count.toNat).error _ _ _ (.begin source _ runId count) hw

lemma mishap_of_generate {source : σ} (h : e.options.checkLimits [] schema = .ok ())
    (hg : (e.generate schema source).1 = .error fault) : fault.IsMishap := by
  rw [generate, h] at hg
  cases hw : e.value false schema (begin source false {}) with
  | ok v w => simp [hw] at hg
  | error fault' w =>
    simp only [hw, Except.error.injEq] at hg
    exact hg ▸ (e.ensures_value false 0 schema).error _ _ _ (.begin source false "" 0) hw

lemma nesting_of_generate {source : σ} {v : Json} (h : e.options.checkLimits [] schema = .ok ())
    (hg : (e.generate schema source).1 = .ok v) : v.nesting ≤ schema.depth := by
  rw [generate, h] at hg
  cases hw : e.value false schema (begin source false {}) with
  | error fault' w => simp [hw] at hg
  | ok u w =>
    simp only [hw, Except.ok.injEq] at hg
    exact hg ▸ Nat.le_trans (e.yields_value false schema _ _ _ hw).nesting_le schema.nesting_le_depth

lemma admits_of_checkLimits (h : e.options.checkLimits [] schema = .ok ()) : e.Admits schema := by
  obtain ⟨hdepth, hfits⟩ := Options.firstBreach?_eq_none_iff.1 (Options.checkLimits_eq_ok_iff.1 h)
  exact {
    depth_le := hdepth
    run_mishap := fun _ _ _ _ _ => mishap_of_run h
    generate_mishap := fun _ _ => mishap_of_generate h
    run_length := fun _ _ _ _ _ ⟨_, _, _, _, _, hlen⟩ => hlen.le hfits
    generate_length := fun _ _ hlen => hlen.le hfits
    run_drawn := fun _ _ _ _ _ hr _ hv _ hitems => exists_drawsInRun hr hv hitems
    run_nesting := fun _ _ _ _ _ hr v hv => (e.plain_of_run _ _ _ _ _ hr v hv).2.2
    generate_nesting := fun _ _ hg => Nat.le_trans (nesting_of_generate h hg) hdepth }

end

/-- A schema is refused just if it exceeds a limit, for the first node in preorder that breaks one, and before
anything else happens. From any other schema nothing is made that exceeds a limit. -/
theorem run_limits (e : Engine σ) (schema : Schema) :
    (∀ fault, e.options.checkLimits [] schema = .error fault ↔ e.options.firstBreach? schema = some fault) ∧
    (∀ fault, e.options.firstBreach? schema = some fault → fault.IsBreach ∧ e.Refuses schema fault) ∧
    (e.options.checkLimits [] schema = .ok () → e.Admits schema) ∧
    ∀ count token runId source,
      ((∃ fault, (e.run schema count token runId source).outcome = .error fault ∧ fault.IsBreach) ↔
        e.options.Exceeded schema) ∧
      ((∃ fault, (e.generate schema source).1 = .error fault ∧ fault.IsBreach) ↔ e.options.Exceeded schema) := by
  have hrefuses (fault) (h : e.options.firstBreach? schema = some fault) : e.Refuses schema fault :=
    refuses_of_checkLimits (Options.firstBreach?_eq_some_iff.1 h)
  refine ⟨fun fault => Options.firstBreach?_eq_some_iff.symm,
    fun fault h => ⟨Options.isBreach_of_firstBreach? h, hrefuses fault h⟩, admits_of_checkLimits, ?_⟩
  intro count token runId source
  rw [Options.exceeded_iff]
  cases hb : e.options.firstBreach? schema with
  | some fault =>
    have hbreach := Options.isBreach_of_firstBreach? hb
    have hrun := (hrefuses fault hb).run count token runId source
    have hgenerate := (hrefuses fault hb).generate source
    refine ⟨⟨fun _ => ⟨fault, rfl⟩, fun _ => ⟨fault, ?_, hbreach⟩⟩,
      fun _ => ⟨fault, rfl⟩, fun _ => ⟨fault, ?_, hbreach⟩⟩
    · rw [hrun]
    · rw [hgenerate]
  | none =>
    have hadmits := admits_of_checkLimits (Options.checkLimits_eq_ok_iff.2 hb)
    refine ⟨⟨?_, by simp⟩, ?_, by simp⟩
    · rintro ⟨fault, hr, hbreach⟩
      exact absurd hbreach (hadmits.run_mishap _ _ _ _ _ hr)
    · rintro ⟨fault, hg, hbreach⟩
      exact absurd hbreach (hadmits.generate_mishap _ _ hg)

section

def limitedEngine : Engine WordCycle := ⟨{ maxDepth := 3, maxArrayLen := 3 }, plainEngine.registry⟩

def narrowSchema : Schema := .array 1 3 (.scalar "x")

def wideSchema : Schema :=
  .object [("a", narrowSchema), ("b", .array 0 9 (.object [("c", .array 0 9 (.scalar "y"))]))]

theorem run_limits_wide :
    limitedEngine.Refuses wideSchema (.arrayTooLarge [.field "b"] 9 3) ∧
    limitedEngine.run wideSchema 2 (some true) "" ⟨#[0], 0⟩ =
      ⟨.error (.arrayTooLarge [.field "b"] 9 3), .new "" 2, ⟨#[0], 0⟩⟩ ∧
    (GenerationError.arrayTooLarge [.field "b"] 9 3).message =
      "array at schema.b allows 9 elements, above the limit of 3" ∧
    limitedEngine.Admits narrowSchema ∧
    ∃ len, limitedEngine.Draws false narrowSchema (begin ⟨#[0], 0⟩ false {}) len ∧ len ≤ 3 := by
  obtain ⟨-, hrefuses, -⟩ := run_limits limitedEngine wideSchema
  obtain ⟨-, -, hadmits, -⟩ := run_limits limitedEngine narrowSchema
  have hwide := (hrefuses (.arrayTooLarge [.field "b"] 9 3) (by decide)).2
  have hnarrow := hadmits rfl
  have hdraws : limitedEngine.Draws false narrowSchema (begin ⟨#[0], 0⟩ false {}) 1 :=
    ⟨1, 3, .scalar "x", _, _, _, .here _ _, rfl, rfl⟩
  exact ⟨hwide, hwide.run 2 (some true) "" ⟨#[0], 0⟩, by decide, hnarrow, 1, hdraws,
    hnarrow.generate_length _ _ hdraws⟩

end

end Engine

end Specimen
