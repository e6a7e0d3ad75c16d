import Specimen.Engine.Run
import Specimen.Proofs.Engine.Results
import Specimen.Proofs.Entries
import Specimen.Proofs.Generator.Draws

namespace Specimen

open Walker

variable {σ : Type}

namespace Registry

def generatorFor (r : Registry σ) (tag : String) : Generator σ := (r.find? tag).getD r.fallback

end Registry

inductive Conforms (e : Engine σ) : Schema → Json → Prop
  | scalar {tag} (source : σ) :
      Conforms e (.scalar tag) (.str ((e.registry.generatorFor tag).generate source).1.text)
  | image {spec text} : spec.IsUrl e.options.imageBaseUrl text → Conforms e (.image spec) (.str text)
  | array {minSize maxSize element items} : minSize.toNat ≤ items.length → items.length ≤ maxSize.toNat →
      (∀ v ∈ items, Conforms e element v) → Conforms e (.array minSize maxSize element) (.arr items)
  | object {fields members} : Entries.keys members = (Entries.keys fields).eraseDups →
      (∀ name v s, Entries.find? name members = some v → Entries.find? name fields.reverse = some s →
        Conforms e s v) →
      Conforms e (.object fields) (.obj members)

structure Fits (e : Engine σ) (fields : List (String × Schema)) (members : List (String × Json)) : Prop where
  keys : Entries.keys members = (Entries.keys fields).eraseDups
  conform : ∀ name v s, Entries.find? name members = some v → Entries.find? name fields.reverse = some s →
    Conforms e s v

lemma Fits.nil (e : Engine σ) : Fits e [] [] := ⟨rfl, by simp⟩

lemma Fits.concat {e : Engine σ} {fields : List (String × Schema)} {members : List (String × Json)}
    {name : String} {s : Schema} {v : Json} (h : Fits e fields members) (hv : Conforms e s v) :
    Fits e (fields ++ [(name, s)]) (Entries.set name v members) where
  keys := by
    rw [Entries.keys_set, Entries.keys_append]
    change _ = (Entries.keys fields ++ [name]).eraseDups
    simp only [Entries.eraseDups_concat, h.keys, List.mem_eraseDups]
  conform other u t hu ht := by
    rw [Entries.find?_set] at hu
    rw [List.reverse_append, List.reverse_singleton, List.singleton_append, Entries.find?_cons] at ht
    by_cases hk : other = name
    · rw [if_pos hk] at hu ht
      cases hu
      cases ht
      exact hv
    · rw [if_neg hk] at hu ht
      exact h.conform other u t hu ht

namespace Engine

section

variable (e : Engine σ)

lemma yields_scalar (tag : String) :
    Yields (e.scalar tag) fun t => ∃ s, t = ((e.registry.generatorFor tag).generate s).1.text := by
  rw [scalar, Registry.generatorFor]
  cases e.registry.find? tag with
  | some g => exact .after fun _ => yields_call g
  | none => exact .after fun _ => yields_call e.registry.fallback

end

variable [WordSource σ] (e : Engine σ) (watched : Bool)

lemma yields_image (spec : ImageSpec) : Yields (e.image spec) (spec.IsUrl e.options.imageBaseUrl) :=
  .after fun _ => yields_draw fun s => spec.isUrl_drawUrl e.options.imageBaseUrl s

lemma yields_length (minSize maxSize : UInt64) :
    Yields (length minSize maxSize : Walker σ UInt64) fun len =>
      minSize.toNat ≤ len.toNat ∧ len.toNat ≤ maxSize.toNat := by
  intro w len w' he
  rw [length] at he
  split at he
  · rename_i h
    refine yields_draw (P := fun len => minSize.toNat ≤ len.toNat ∧ len.toNat ≤ maxSize.toNat)
      (fun s => ?_) w len w' he
    let n := (between (.toReach maxSize.toNat) minSize.toNat maxSize.toNat h s).1
    have hlo : minSize.toNat ≤ n := le_between _ _ _ h s
    have hhi : n ≤ maxSize.toNat := between_le _ _ _ h s
    have hn : (UInt64.ofNat n).toNat = n :=
      UInt64.toNat_ofNat_of_lt' (Nat.lt_of_le_of_lt hhi maxSize.toNat_lt)
    change minSize.toNat ≤ (UInt64.ofNat n).toNat ∧ (UInt64.ofNat n).toNat ≤ maxSize.toNat
    exact hn.symm ▸ ⟨hlo, hhi⟩
  · cases he

mutual

lemma yields_value : (s : Schema) → Yields (e.value watched s) (Conforms e s)
  | .scalar tag => by
    rw [value]
    refine .after fun _ => (e.yields_scalar tag).bind fun t ht => .pure ?_
    obtain ⟨source, rfl⟩ := ht
    exact .scalar source
  | .image spec => by
    rw [value]
    exact .after fun _ => (e.yields_image spec).bind fun t ht => .pure (.image ht)
  | .object fields => by
    rw [value]
    exact .after fun _ => (yields_members fields (.nil e)).bind fun ms hms =>
      .pure (.object hms.keys hms.conform)
  | .array minSize maxSize element => by
    rw [value]
    refine .after fun _ => (yields_length minSize maxSize).bind fun len hlen => ?_
    have step : Yields (do checkpoint watched; e.value watched element) (Conforms e element) :=
      .after fun _ => yields_value element
    refine (yields_gather step len.toNat).bind fun items hitems => .after fun _ => .pure ?_
    exact .array (hitems.1 ▸ hlen.1) (hitems.1 ▸ hlen.2) hitems.2

lemma yields_members {done : List (String × Schema)} {before : List (String × Json)} :
    (rest : List (String × Schema)) → Fits e done before →
      Yields (e.members watched rest before) (Fits e (done ++ rest))
  | [], h => by
    rw [members, List.append_nil]
    exact .pure h
  | (name, s) :: rest, h => by
    rw [members]
    refine (yields_value s).bind fun v hv => ?_
    -- the field goes over to those whose members are there
    rw [List.append_cons]
    exact yields_members rest (h.concat hv)

end

lemma yields_records (schema : Schema) (count : Nat) :
    Yields (e.records watched schema count) fun l => l.length = count ∧ ∀ v ∈ l, Conforms e schema v := by
  have step : Yields (do
      checkpoint watched
      let v ← e.value watched schema
      finishRecord
      return v) (Conforms e schema) :=
    .after fun _ => (e.yields_value watched schema).bind fun _ hv => .after fun _ => .pure hv
  exact yields_gather step count

lemma exists_walk_of_run {schema : Schema} {count : UInt64} {token : Option Bool} {runId : String} {source : σ}
    {records : Dataset} (h : (e.run schema count token runId source).outcome = .ok records) :
    e.options.checkLimits [] schema = .ok () ∧
      ∃ w, e.records token.isSome schema count.toNat (begin source (token.getD false) (.new runId count)) =
        .ok records w := by
  rw [run] at h
  cases hl : e.options.checkLimits [] schema with
  | error fault => simp [hl] at h
  | ok =>
    simp only [hl] at h
    cases hr : e.records token.isSome schema count.toNat
      (begin source (token.getD false) (Report.new runId count)) with
    | error fault w => simp [hr] at h
    | ok l w =>
      simp only [hr] at h
      cases h
      exact ⟨rfl, w, rfl⟩

lemma records_of_run {schema : Schema} {count : UInt64} {token : Option Bool} {runId : String} {source : σ}
    {records : Dataset} (h : (e.run schema count token runId source).outcome = .ok records) :
    e.options.checkLimits [] schema = .ok () ∧
      ∃ w w', e.records token.isSome schema count.toNat w = .ok records w' := by
  obtain ⟨hl, w, hw⟩ := e.exists_walk_of_run h
  exact ⟨hl, _, w, hw⟩

theorem run_conforms (schema : Schema) (count : UInt64) (token : Option Bool) (runId : String) (source : σ)
    {records : Dataset} (h : (e.run schema count token runId source).outcome = .ok records) :
    records.length = count.toNat ∧ ∀ v ∈ records, Conforms e schema v := by
  obtain ⟨-, w, w', hr⟩ := e.records_of_run h
  exact e.yields_records token.isSome schema count.toNat w records w' hr

section

def plainEngine : Engine WordCycle := ⟨{}, ⟨{}, .ofText "word" (pure "filler")⟩⟩

def mixedSchema : Schema :=
  .object [("a", .scalar "x"), ("b", .array 1 2 (.image {})), ("a", .array 0 0 (.scalar "y"))]

def mixedRecord : Json := .obj [("a", .arr []), ("b", .arr [.str "https://picsum.photos/200/200?random=0"])]

def mixedRun : Run WordCycle := plainEngine.run mixedSchema 1 (some false) "" ⟨#[0], 0⟩

theorem run_conforms_mixed :
    mixedRun.outcome = .ok [mixedRecord] ∧ Conforms plainEngine mixedSchema mixedRecord := by
  have hsome : mixedRun.outcome.toOption = some [mixedRecord] := by decide +kernel
  have hok : mixedRun.outcome = .ok [mixedRecord] := by
    cases hr : mixedRun.outcome with
    | error fault => simp [hr, Except.toOption] at hsome
    | ok records => simpa [hr, Except.toOption] using hsome
  exact ⟨hok, (plainEngine.run_conforms mixedSchema 1 (some false) "" ⟨#[0], 0⟩ hok).2 _ List.mem_cons_self⟩

end

end Engine

end Specimen
