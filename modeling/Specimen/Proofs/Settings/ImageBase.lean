import Specimen.Program.Run
import Specimen.Proofs.Engine.Conformance
import Specimen.Proofs.Generator.ImageAddress
import Specimen.Proofs.Settings.Validity

namespace Specimen

open ImageSpec (Spells spells_url)

inductive ImageIn : Schema → Json → ImageSpec → String → Prop
  | here {spec text} : ImageIn (.image spec) (.str text) spec text
  | item {minSize maxSize element items v spec text} : v ∈ items → ImageIn element v spec text →
      ImageIn (.array minSize maxSize element) (.arr items) spec text
  | member {fields members name s v spec text} : (name, v) ∈ members →
      Entries.find? name fields.reverse = some s → ImageIn s v spec text →
      ImageIn (.object fields) (.obj members) spec text

lemma ImageIn.isUrl {σ : Type} {e : Engine σ} {schema : Schema} {v : Json} {spec : ImageSpec} {text : String}
    (h : ImageIn schema v spec text) (hv : Conforms e schema v) : spec.IsUrl e.options.imageBaseUrl text := by
  induction h with
  | here =>
    cases hv with
    | image hurl => exact hurl
  | item hmem _ ih =>
    cases hv with
    | array _ _ hitems => exact ih (hitems _ hmem)
  | member hmem hfield _ ih =>
    cases hv with
    | object hkeys hmembers =>
      have hnodup := hkeys ▸ Entries.nodup_eraseDups _
      exact ih (hmembers _ _ _ (Entries.find?_of_mem hnodup hmem) hfield)

def ImageSpec.HasStem (spec : ImageSpec) (text : String) : Prop :=
  ∃ stem nonce, stem ≠ "" ∧ nonce ≤ 999 ∧ Spells text stem spec.width.toNat spec.height.toNat nonce

lemma withoutTrailingSlashes_ne_empty_iff {base : String} :
    withoutTrailingSlashes base ≠ "" ↔ ∃ c ∈ base.toList, c ≠ '/' := by
  rw [Ne, ← String.toList_inj, toList_withoutTrailingSlashes, String.toList_empty, List.rdropWhile_eq_nil_iff]
  simp

namespace ImageSpec

variable {spec : ImageSpec} {base : String}

lemma hasStem_url_iff {nonce : Nat} (hn : nonce ≤ 999) :
    spec.HasStem (spec.url base nonce) ↔ ∃ c ∈ base.toList, c ≠ '/' := by
  rw [← withoutTrailingSlashes_ne_empty_iff]
  have hurl := spec.spells_url base nonce
  constructor
  · rintro ⟨stem, nonce', hstem, -, htext⟩
    -- an address is read in one way only
    have hsame := htext.readUrl?.symm.trans hurl.readUrl?
    simp only [Option.some.injEq, Prod.mk.injEq] at hsame
    exact hsame.1 ▸ hstem
  · intro hstem
    exact ⟨_, nonce, hstem, hn, hurl⟩

lemma IsUrl.exists_url {text : String} (h : spec.IsUrl base text) : ∃ nonce ≤ 999, text = spec.url base nonce := by
  obtain ⟨stem, slashes, nonce, hbase, hlast, hnonce, rfl⟩ := h
  have hstem : withoutTrailingSlashes base = String.ofList stem := by
    have hself : stem.rdropWhile (· == '/') = stem := List.rdropWhile_eq_self_iff.2 fun hne => by
      rw [List.getLast?_eq_some_getLast hne] at hlast
      simpa using hlast
    have hsplit : base = String.ofList stem ++ String.ofList (List.replicate slashes '/') := by
      rw [← String.toList_inj, hbase, String.toList_append, String.toList_ofList, String.toList_ofList]
    rw [hsplit, withoutTrailingSlashes_append, ← String.toList_inj, toList_withoutTrailingSlashes, String.toList_ofList,
      hself]
  exact ⟨nonce, hnonce, by rw [url, hstem]⟩

end ImageSpec

lemma Engine.outcome_run_image {σ : Type} [WordSource σ] (e : Engine σ) (spec : ImageSpec)
    (hdepth : e.options.maxDepth ≠ 0) (hvalues : e.options.maxValues ≠ 0) (source : σ) :
    (e.run (.image spec) 1 none "" source).outcome = .ok [.str (spec.drawUrl e.options.imageBaseUrl source).1] := by
  have hdeep : ¬ e.options.maxDepth.toNat < Schema.Path.level [] := by
    have : e.options.maxDepth.toNat ≠ 0 := fun h => hdepth (UInt64.toNat_inj.1 h)
    change ¬ e.options.maxDepth.toNat < 1
    omega
  have hbudget : ¬ e.options.maxValues.toNat ≤ 0 := fun h => hvalues (UInt64.toNat_inj.1 (Nat.le_zero.1 h))
  have hlimits : e.options.checkLimits [] (.image spec) = .ok () := by rw [Options.checkLimits, if_neg hdeep]
  rcases hdraw : spec.drawUrl e.options.imageBaseUrl source with ⟨text, rest⟩
  have hrecords (report : Report) : ∃ w, e.records false (.image spec) 1 (begin source false report) =
      .ok [.str text] w := by
    simp only [records, Walker.gather, value, image, Walker.checkpoint, Walker.spend, Walker.record, Walker.draw,
      Walker.finishRecord, bind, EStateM.bind, pure, EStateM.pure, begin, Bool.false_and,
      Bool.false_eq_true, if_false, if_neg hbudget, hdraw]
    exact ⟨_, rfl⟩
  obtain ⟨w, hw⟩ := hrecords (.new "" 1)
  have hcount : (1 : UInt64).toNat = 1 := rfl
  simp only [run, hlimits, hcount, Option.isSome_none, Option.getD_none, hw]

namespace Settings

def KeepsBase (s : Settings) : Prop :=
  ∀ (σ : Type) [WordSource σ] (registry : Registry σ) (schema : Schema) (count : UInt64) (token : Option Bool)
    (runId : String) (source : σ) (records : Dataset),
    ((⟨s.options, registry⟩ : Engine σ).run schema count token runId source).outcome = .ok records →
    ∀ v ∈ records, ∀ spec text, ImageIn schema v spec text → spec.HasStem text

variable {s : Settings}

lemma keepsBase_of_mem {c : Char} (hc : c ∈ s.imageBaseUrl.toList) (hslash : c ≠ '/') : s.KeepsBase := by
  intro σ _ registry schema count token runId source records hrun v hv spec text himage
  let e : Engine σ := ⟨s.options, registry⟩
  obtain ⟨-, w, w', hrecords⟩ := e.records_of_run hrun
  have hconforms := (e.yields_records token.isSome schema count.toNat w records w' hrecords).2 v hv
  obtain ⟨nonce, hnonce, rfl⟩ := (himage.isUrl hconforms).exists_url
  exact (ImageSpec.hasStem_url_iff hnonce).2 ⟨c, hc, hslash⟩

lemma not_keepsBase (hdepth : s.maxDepth ≠ 0) (hvalues : s.maxValues ≠ 0)
    (hslashes : ∀ c ∈ s.imageBaseUrl.toList, c = '/') : ¬ s.KeepsBase := by
  intro hkeeps
  let source : WordCycle := ⟨#[], 0⟩
  let e : Engine WordCycle := ⟨s.options, .builtIn⟩
  have hrun := e.outcome_run_image {} hdepth hvalues source
  have hstem := hkeeps WordCycle .builtIn (.image {}) 1 none "" source _ hrun _ List.mem_cons_self {} _ .here
  rw [ImageSpec.fst_drawUrl, ImageSpec.hasStem_url_iff (ImageSpec.nonce_le source)] at hstem
  obtain ⟨c, hc, hslash⟩ := hstem
  exact hslash (hslashes c hc)

theorem keepsBase_iff (h : s.validate = .ok ()) : s.KeepsBase ↔ ∃ c ∈ s.imageBaseUrl.toList, c ≠ '/' := by
  have hsound := validate_eq_ok_iff.1 h
  constructor
  · intro hkeeps
    by_contra hnone
    push Not at hnone
    exact not_keepsBase (fun h => hsound _ (.maxDepth h)) (fun h => hsound _ (.maxValues h)) hnone hkeeps
  · rintro ⟨c, hc, hslash⟩
    exact keepsBase_of_mem hc hslash

theorem keepsBase_default : ({} : Settings).validate = .ok () ∧ ({} : Settings).KeepsBase := by
  have hvalid : ({} : Settings).validate = .ok () := by decide +kernel
  exact ⟨hvalid, (keepsBase_iff hvalid).2 ⟨'h', by decide, by decide⟩⟩

def slashBase : Settings := { imageBaseUrl := "/" }

theorem slashBase_not_keepsBase : slashBase.validate = .ok () ∧
    (slashBase.engine.run (.image {}) 1 none "" (⟨#[], 0⟩ : WordCycle)).outcome = .ok [.str "/200/200?random=0"] ∧
    ¬ slashBase.KeepsBase := by
  refine ⟨by decide +kernel, ?_, ?_⟩
  · rw [Engine.outcome_run_image _ _ (by decide) (by decide)]
    decide +kernel
  · exact not_keepsBase (by decide) (by decide) (by simp [slashBase])

end Settings

end Specimen
