import Specimen.Proofs.Http.Outcome
import Specimen.Proofs.Http.Plan

namespace Specimen.Http

open Store

namespace Request

def ForDatasets (r : Request) : Prop :=
  match r.method, Resource.ofPath? r.path with
  | .post, some .generateData | .get, some (.getData _) | .get, some .listFiles | .delete, some (.deleteData _) => True
  | _, _ => False

lemma ForDatasets.exists_resource {r : Request} (h : r.ForDatasets) :
    ∃ resource, Resource.ofPath? r.path = some resource ∧ (resource ≠ .apiDocs ∧ resource ≠ .health) ∧
      resource.allows r.method ∧ r.method ≠ .options ∧ r.method ≠ .head := by
  rw [ForDatasets] at h
  split at h
  iterate 4
    rename_i hm hp
    exact ⟨_, hp, by simp, by rw [hm]; rfl, by simp [hm], by simp [hm]⟩
  exact h.elim

lemma forDatasets_of_get {r : Request} {key : List Char} (hm : r.method = .get)
    (hp : Resource.ofPath? r.path = some (.getData key)) : r.ForDatasets := by
  rw [ForDatasets, hm, hp]
  trivial

def HasSegment (r : Request) (segment : List Char) : Prop :=
  Resource.ofPath? r.path = some (.getData segment) ∨ Resource.ofPath? r.path = some (.deleteData segment)

def KeyDecodes (r : Request) : Prop := ∀ segment, r.HasSegment segment → (Percent.decode? segment).isSome

variable {r : Request} {segment : List Char}

lemma HasSegment.unique {segment' : List Char} (h : r.HasSegment segment) (h' : r.HasSegment segment') :
    segment = segment' := by
  rcases h with h | h <;> rcases h' with h' | h' <;> cases h.symm.trans h' <;> rfl

lemma HasSegment.keyDecodes_iff (h : r.HasSegment segment) : r.KeyDecodes ↔ (Percent.decode? segment).isSome :=
  ⟨fun hk => hk segment h, fun hs _ h' => h.unique h' ▸ hs⟩

lemma keyDecodes_of_not_hasSegment (h : ∀ segment, ¬ r.HasSegment segment) : r.KeyDecodes :=
  fun segment hs => absurd hs (h segment)

end Request

namespace Response

def Enveloped (response : Response) : Prop :=
  ∃ message, Json.parse response.body = .ok (.obj [("error", .str message)])

lemma nesting_errorBody (message : String) : (ErrorBody.format.toJson ⟨message⟩).nesting ≤ Json.maxNesting := by
  have hnesting : (ErrorBody.format.toJson ⟨message⟩).nesting = 1 := rfl
  rw [hnesting]
  decide

lemma enveloped_ofError (e : ApiError) : (ofError e).Enveloped :=
  ⟨e.message, Json.parse_compact (Service.plain_errorBody e.message) (nesting_errorBody e.message)⟩

lemma not_enveloped_undecodableKey : ¬ undecodableKey.Enveloped := by
  rintro ⟨message, h⟩
  have hfault : (Json.parse undecodableKey.body).toOption = none := by decide +kernel
  rw [h] at hfault
  cases hfault

end Response

lemma ApiError.status_mem (e : ApiError) : e.status ∈ [400, 404, 500, 503] := by
  unfold status
  split <;> decide

namespace Service

variable {σ τ : Type} [WordSource σ] {s : Service σ (StateM τ)} {chance : Chance σ} {r : Request} {w : τ}

inductive Answers (r : Request) : Response → Prop
  | fine {response} : r.KeyDecodes → response.status = 200 → Answers r response
  | error (e) : r.KeyDecodes → Answers r (.ofError e)
  | undecodable : ¬ r.KeyDecodes → Answers r .undecodableKey

omit [WordSource σ] in
lemma answers_relay (hr : r.KeyDecodes) (query : Query) (encode : query.Answer → Json) :
    Answers r ((Plan.relay query encode).run s.store w).1 := by
  change Answers r (.ofResult encode (((query.run s.store).run w).1.mapError .ofStore))
  cases ((query.run s.store).run w).1 with
  | ok a => exact .fine hr rfl
  | error e => exact .error (.ofStore e) hr

omit [WordSource σ] in
lemma answers_keyPlan {segment : List Char} (hs : r.HasSegment segment) {next : String → Plan}
    (h : r.KeyDecodes → ∀ key, Answers r ((next key).run s.store w).1) :
    Answers r ((keyPlan segment next).run s.store w).1 := by
  rw [keyPlan]
  cases hk : Percent.decode? segment with
  | some key => exact h (hs.keyDecodes_iff.2 (by simp [hk])) key
  | none => exact .undecodable fun hr => by simpa [hk] using hs.keyDecodes_iff.1 hr

lemma answers_resourcePlan {resource : Resource} (hp : Resource.ofPath? r.path = some resource)
    (hd : resource ≠ .apiDocs ∧ resource ≠ .health) :
    Answers r ((s.resourcePlan chance r resource).run s.store w).1 := by
  cases resource with
  | generateData =>
    have hr : r.KeyDecodes := r.keyDecodes_of_not_hasSegment fun _ h => by simp [Request.HasSegment, hp] at h
    rw [resourcePlan]
    cases s.generate chance r with
    | error e => exact .error e hr
    | ok records => exact answers_relay hr _ _
  | getData segment => exact answers_keyPlan (.inl hp) fun hr _ => answers_relay hr _ _
  | listFiles =>
    have hr : r.KeyDecodes := r.keyDecodes_of_not_hasSegment fun _ h => by simp [Request.HasSegment, hp] at h
    exact answers_relay hr _ _
  | deleteData segment => exact answers_keyPlan (.inr hp) fun hr _ => answers_relay hr _ _
  | apiDocs => exact absurd rfl hd.1
  | health => exact absurd rfl hd.2

lemma answers_handle (s : Service σ (StateM τ)) (chance : Chance σ) (w : τ) (hr : r.ForDatasets) :
    Answers r ((s.handle chance r).run w).1 := by
  obtain ⟨resource, hp, hd, ha, ho, hh⟩ := hr.exists_resource
  rw [run_handle_of_allows ho hp ha, if_neg hh, run_answer]
  exact answers_resourcePlan hp hd

/-- An error tells what is wrong as the member of an object, unless it is the key that cannot be decoded. -/
theorem enveloped_iff (s : Service σ (StateM τ)) (chance : Chance σ) (w : τ) (hr : r.ForDatasets)
    {response : Response} {w' : τ} (h : (s.handle chance r).run w = (response, w')) (herror : response.status ≠ 200) :
    response.status ∈ [400, 404, 500, 503] ∧ (response.Enveloped ↔ r.KeyDecodes) := by
  have hanswers : Answers r response := by
    have hhandle := s.answers_handle chance w hr
    rwa [h] at hhandle
  cases hanswers with
  | fine hk hok => exact absurd hok herror
  | error e hk => exact ⟨e.status_mem, iff_of_true (Response.enveloped_ofError e) hk⟩
  | undecodable hk => exact ⟨by decide, iff_of_false Response.not_enveloped_undecodableKey hk⟩

section

theorem enveloped_iff_missing :
    (sampleGet "%6b").ForDatasets ∧ (sampleGet "%6b").KeyDecodes ∧
      ((sampleMemory.handle sampleChance (sampleGet "%6b")).run .empty).1.status = 404 ∧
      ((sampleMemory.handle sampleChance (sampleGet "%6b")).run .empty).1.Enveloped := by
  have hp : Resource.ofPath? (sampleGet "%6b").path = some (.getData "%6b".toList) := by decide
  have hr : (sampleGet "%6b").ForDatasets := Request.forDatasets_of_get (r := sampleGet "%6b") rfl hp
  have hk : (sampleGet "%6b").KeyDecodes := (Request.HasSegment.keyDecodes_iff (.inl hp)).2 (by decide +kernel)
  have hstatus : ((sampleMemory.handle sampleChance (sampleGet "%6b")).run .empty).1.status = 404 := by
    decide +kernel
  have herror : ((sampleMemory.handle sampleChance (sampleGet "%6b")).run .empty).1.status ≠ 200 := by
    rw [hstatus]
    decide
  exact ⟨hr, hk, hstatus, (enveloped_iff sampleMemory sampleChance .empty hr rfl herror).2.2 hk⟩

theorem not_enveloped_badKey :
    (sampleGet "%ff").ForDatasets ∧
      ((sampleMemory.handle sampleChance (sampleGet "%ff")).run .empty).1 =
        .plain 400 "Invalid URL: Invalid UTF-8 in `key`" ∧
      ¬ ((sampleMemory.handle sampleChance (sampleGet "%ff")).run .empty).1.Enveloped := by
  have hp : Resource.ofPath? (sampleGet "%ff").path = some (.getData "%ff".toList) := by decide
  have hr : (sampleGet "%ff").ForDatasets := Request.forDatasets_of_get (r := sampleGet "%ff") rfl hp
  have hplain : ((sampleMemory.handle sampleChance (sampleGet "%ff")).run .empty).1 = .undecodableKey := by
    decide +kernel
  rw [hplain]
  exact ⟨hr, rfl, Response.not_enveloped_undecodableKey⟩

end

end Service

end Specimen.Http
