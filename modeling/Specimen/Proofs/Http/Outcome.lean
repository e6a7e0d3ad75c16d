import Mathlib.Data.String.Basic
import Specimen.Proofs.Engine.Quiet
import Specimen.Proofs.Http.History
import Specimen.Proofs.Json.Continuation
import Specimen.Proofs.Json.Survival
import Specimen.Proofs.Schema.Sized

namespace Specimen

namespace Store

variable {τ : Type}

def recorded (store : Store (StateM τ)) : Store (StateM (τ × List (String × Dataset))) where
  put key records := ExceptT.mk fun w =>
    match (store.put key records).run w.1 with
    | (result, w') => (result, (w', w.2 ++ [(key, records)]))
  get key := ExceptT.mk fun w =>
    match (store.get key).run w.1 with
    | (result, w') => (result, (w', w.2))
  list := ExceptT.mk fun w =>
    match store.list.run w.1 with
    | (result, w') => (result, (w', w.2))
  delete key := ExceptT.mk fun w =>
    match (store.delete key).run w.1 with
    | (result, w') => (result, (w', w.2))

end Store

namespace Http

def Request.Makes (r : Request) : Prop := r.method = .post ∧ Resource.ofPath? r.path = some .generateData

namespace Service

variable {σ τ : Type} [WordSource σ] (s : Service σ (StateM τ)) (chance : Chance σ) (r : Request)

def recorded : Service σ (StateM (τ × List (String × Dataset))) := ⟨s.engine, s.store.recorded, s.config⟩

def Accepts (valid : ValidRequest) : Prop :=
  ∃ request, readBody r = .ok request ∧ request.validate s.config.maxCount = .ok valid

def runOf (valid : ValidRequest) : Run σ := s.engine.run valid.schema valid.count (some false) "" chance.source

inductive Refuses : String → Prop
  | unreadable {e} : readBody r = .error e → Refuses e.message
  | invalid {request e} : readBody r = .ok request → request.validate s.config.maxCount = .error e →
      Refuses e.message
  | failed {valid fault} : s.Accepts r valid → chance.timesOut = false →
      (s.runOf chance valid).outcome = .error fault → fault.IsLimit → Refuses fault.message

def TimesOut : Prop := (∃ valid, s.Accepts r valid) ∧ chance.timesOut = true

def Completes (records : Dataset) : Prop :=
  ∃ valid, s.Accepts r valid ∧ chance.timesOut = false ∧ (s.runOf chance valid).outcome = .ok records

variable {s chance r}

section generate

variable {valid : ValidRequest} {records : Dataset} {e : ApiError}

omit [WordSource σ] in
lemma Accepts.unique {valid' : ValidRequest} (h : s.Accepts r valid) (h' : s.Accepts r valid') : valid = valid' := by
  obtain ⟨request, hr, hv⟩ := h
  obtain ⟨request', hr', hv'⟩ := h'
  cases hr.symm.trans hr'
  exact Except.ok.inj (hv.symm.trans hv')

omit [WordSource σ] in
lemma sized_of_accepts (h : s.Accepts r valid) : valid.schema.Sized := by
  obtain ⟨request, -, hv⟩ := h
  obtain ⟨json, -, hs⟩ := Specimen.Request.ofJson_of_validate hv
  exact Schema.sized_of_ofJson hs

lemma generate_of_accepts (h : s.Accepts r valid) : s.generate chance r =
    if chance.timesOut then .error (.timedOut s.config.timeoutMs)
    else (s.runOf chance valid).outcome.mapError .ofGeneration := by
  obtain ⟨request, hr, hv⟩ := h
  simp only [generate, hr, hv]
  rfl

lemma generate_of_timesOut (h : s.TimesOut chance r) :
    s.generate chance r = .error (.timedOut s.config.timeoutMs) := by
  obtain ⟨⟨valid, ha⟩, ht⟩ := h
  rw [generate_of_accepts ha, if_pos ht]

lemma generate_of_completes (h : s.Completes chance r records) : s.generate chance r = .ok records := by
  obtain ⟨valid, ha, ht, ho⟩ := h
  rw [generate_of_accepts ha, if_neg (by simp [ht]), ho]
  rfl

lemma generate_of_refuses {message : String} (h : s.Refuses chance r message) :
    s.generate chance r = .error (.badRequest message) := by
  cases h with
  | unreadable hr =>
    simp only [generate, hr]
    rfl
  | invalid hr hv =>
    simp only [generate, hr, hv]
    rfl
  | failed ha ht ho hl =>
    rw [generate_of_accepts ha, if_neg (by simp [ht]), ho]
    cases hl <;> rfl

lemma generate_cases (hq : s.engine.registry.Quiet) (chance : Chance σ) (r : Request) :
    (∃ message, s.Refuses chance r message) ∨ s.TimesOut chance r ∨ ∃ records, s.Completes chance r records := by
  cases hr : readBody r with
  | error e => exact .inl ⟨_, .unreadable hr⟩
  | ok request =>
    cases hv : request.validate s.config.maxCount with
    | error e => exact .inl ⟨_, .invalid hr hv⟩
    | ok valid =>
      have ha : s.Accepts r valid := ⟨request, hr, hv⟩
      cases ht : chance.timesOut with
      | true => exact .inr (.inl ⟨⟨valid, ha⟩, ht⟩)
      | false =>
        cases ho : (s.runOf chance valid).outcome with
        | ok records => exact .inr (.inr ⟨records, valid, ha, ht, ho⟩)
        | error fault =>
          have hs := sized_of_accepts ha
          have hlimit : fault.IsLimit := by
            rw [runOf, Engine.run_of_quiet hq hs] at ho
            exact Engine.isLimit_of_run hs ho
          exact .inl ⟨_, .failed ha ht ho hlimit⟩

lemma length_of_completes (h : s.Completes chance r records) (ha : s.Accepts r valid) :
    records.length = valid.count.toNat := by
  obtain ⟨valid', ha', -, ho⟩ := h
  rw [ha.unique ha']
  exact Engine.length_of_run ho

lemma Refuses.unique {message message' : String} (h : s.Refuses chance r message)
    (h' : s.Refuses chance r message') : message = message' := by
  cases (generate_of_refuses h).symm.trans (generate_of_refuses h')
  rfl

lemma Refuses.not_timesOut {message : String} (h : s.Refuses chance r message) : ¬ s.TimesOut chance r := by
  intro ht
  cases (generate_of_refuses h).symm.trans (generate_of_timesOut ht)

lemma Completes.not_refuses {message : String} (h : s.Completes chance r records) :
    ¬ s.Refuses chance r message := by
  intro hr
  cases (generate_of_refuses hr).symm.trans (generate_of_completes h)

lemma Completes.not_timesOut (h : s.Completes chance r records) : ¬ s.TimesOut chance r := by
  intro ht
  cases (generate_of_timesOut ht).symm.trans (generate_of_completes h)

lemma Completes.unique {records' : Dataset} (h : s.Completes chance r records)
    (h' : s.Completes chance r records') : records = records' :=
  Except.ok.inj ((generate_of_completes h).symm.trans (generate_of_completes h'))

end generate

section handle

variable {w : τ} {records : Dataset}

def settle (s : Service σ (StateM τ)) (chance : Chance σ) (w : τ) : Except ApiError Dataset → Response × τ
  | .error e => (.ofError e, w)
  | .ok records =>
    match (s.store.put chance.key records).run w with
    | (.ok key, w') => (.json 200 (StoredDataset.format.toJson ⟨key, records⟩), w')
    | (.error e, w') => (.ofError (.ofStore e), w')

lemma run_handle_of_makes (hr : r.Makes) :
    (s.handle chance r).run w = s.settle chance w (s.generate chance r) := by
  rw [run_handle_generate hr.1 hr.2, generateData]
  cases s.generate chance r with
  | error e => rfl
  | ok records =>
    rw [settle]
    cases hput : (s.store.put chance.key records).run w with
    | mk result w' =>
      cases result with
      | ok key =>
        have hadapt : ((s.store.put chance.key records).adapt ApiError.ofStore).run w = (.ok key, w') :=
          run_adapt_eq_ok_iff.2 hput
        simp only [run_bind_of_ok hadapt]
        rfl
      | error e =>
        have hadapt : ((s.store.put chance.key records).adapt ApiError.ofStore).run w = (.error (.ofStore e), w') := by
          rw [run_adapt, hput]
          rfl
        simp only [run_bind_of_error hadapt]
        rfl

omit [WordSource σ] in
lemma recorded_settle (s : Service σ (StateM τ)) (chance : Chance σ) (w : τ) (before : List (String × Dataset))
    (result : Except ApiError Dataset) :
    s.recorded.settle chance (w, before) result =
      ((s.settle chance w result).1, (s.settle chance w result).2,
        before ++ (result.toOption.map (chance.key, ·)).toList) := by
  cases result with
  | error e => simp [settle, Except.toOption]
  | ok records =>
    have hput : (s.recorded.store.put chance.key records).run (w, before) =
        (((s.store.put chance.key records).run w).1, ((s.store.put chance.key records).run w).2,
          before ++ [(chance.key, records)]) := rfl
    simp only [settle, hput, Except.toOption, Option.map_some, Option.toList_some]
    rcases (s.store.put chance.key records).run w with ⟨_ | _, _⟩ <;> rfl

end handle

section messages

def cancelledMessage : String := "generation was cancelled"

lemma plain_errorBody (message : String) : (ErrorBody.format.toJson ⟨message⟩).Plain := by
  have hnames : ["error"].Nodup := by decide
  refine .obj hnames fun e he => ?_
  rw [List.mem_singleton.1 he]
  exact .str message

lemma compact_errorBody_inj {message message' : String}
    (h : (ErrorBody.format.toJson ⟨message⟩).compact = (ErrorBody.format.toJson ⟨message'⟩).compact) :
    message = message' := by
  have hjson := Json.eq_of_compact_eq (plain_errorBody message) (plain_errorBody message') h
  simpa [Json.Format.toJson, ErrorBody.format, Json.Slots.toMembers, Json.Shape.toJson] using hjson

lemma body_stored_ne {records : Dataset} (hp : ∀ v ∈ records, v.Plain) (key message : String) :
    (StoredDataset.format.toJson ⟨key, records⟩).compact ≠ (ErrorBody.format.toJson ⟨message⟩).compact := by
  intro h
  have hjson := Json.eq_of_compact_eq (Exchange.plain_toJson_stored key hp) (plain_errorBody message) h
  simp [Json.Format.toJson, ErrorBody.format, StoredDataset.format, Json.Slots.toMembers] at hjson

lemma toString_text (text : String) : toString text = text := rfl

lemma bodyError_message_ne (e : BodyError) : e.message ≠ cancelledMessage := by
  cases e <;> simp [BodyError.message, cancelledMessage]

lemma requestError_message_ne (e : RequestError) : e.message ≠ cancelledMessage := by
  intro heq
  have htext := congrArg String.toList heq
  unfold cancelledMessage RequestError.message SchemaError.message at htext
  cases e with
  | badSchema e => cases e <;> simp [toString_text] at htext
  | missingInput | countNotPositive | countAbove => simp [toString_text] at htext

lemma limit_message_ne {e : GenerationError} (h : e.IsLimit) : e.message ≠ cancelledMessage := by
  intro heq
  have htext := congrArg String.toList heq
  unfold cancelledMessage GenerationError.message at htext
  cases h <;> simp [toString_text] at htext

lemma Refuses.message_ne {message : String} (h : s.Refuses chance r message) : message ≠ cancelledMessage := by
  cases h with
  | unreadable => exact bodyError_message_ne _
  | invalid => exact requestError_message_ne _
  | failed _ _ _ hl => exact limit_message_ne hl

lemma timedOut_message_ne (limitMs : ℕ) : (ApiError.timedOut limitMs).message ≠ cancelledMessage := by
  intro heq
  have htext := congrArg String.toList heq
  simp [ApiError.timedOut, ApiError.message, cancelledMessage, toString_text] at htext

lemma ofStore_message_ne (e : StoreError) : (ApiError.ofStore e).message ≠ cancelledMessage := by
  cases e <;> simp [ApiError.ofStore, ApiError.message, cancelledMessage]

end messages

section outcome

variable {w w' : τ} {response : Response} {puts : List (String × Dataset)}

inductive Ends (s : Service σ (StateM τ)) (chance : Chance σ) (r : Request) (w : τ) :
    Response → τ → List (String × Dataset) → Prop
  | refused {message} : s.Refuses chance r message → Ends s chance r w (.ofError (.badRequest message)) w []
  | late : s.TimesOut chance r → Ends s chance r w (.ofError (.timedOut s.config.timeoutMs)) w []
  | lost {records e w'} : s.Completes chance r records → (s.store.put chance.key records).run w = (.error e, w') →
      Ends s chance r w (.ofError (.ofStore e)) w' [(chance.key, records)]
  | made {records key w'} : s.Completes chance r records → (s.store.put chance.key records).run w = (.ok key, w') →
      Ends s chance r w (.json 200 (StoredDataset.format.toJson ⟨key, records⟩)) w' [(chance.key, records)]

lemma exists_ends (hq : s.engine.registry.Quiet) (hr : r.Makes) (w : τ) :
    ∃ response w' puts, (s.handle chance r).run w = (response, w') ∧
      (∀ before, (s.recorded.handle chance r).run (w, before) = (response, w', before ++ puts)) ∧
        Ends s chance r w response w' puts := by
  -- both services make the same records, so that they differ in what they settle on only
  have hrecorded (before : List (String × Dataset)) : (s.recorded.handle chance r).run (w, before) =
      ((s.settle chance w (s.generate chance r)).1, (s.settle chance w (s.generate chance r)).2,
        before ++ ((s.generate chance r).toOption.map (chance.key, ·)).toList) := by
    rw [run_handle_of_makes hr]
    exact recorded_settle s chance w before (s.generate chance r)
  refine ⟨_, _, _, run_handle_of_makes hr, hrecorded, ?_⟩
  rcases generate_cases hq chance r with ⟨message, h⟩ | h | ⟨records, h⟩
  · rw [generate_of_refuses h]
    exact .refused h
  · rw [generate_of_timesOut h]
    exact .late h
  · rw [generate_of_completes h]
    dsimp only
    cases hput : (s.store.put chance.key records).run w with
    | mk result w' =>
      cases result with
      | ok key => exact .made h hput
      | error e => exact .lost h hput

structure Outcome (s : Service σ (StateM τ)) (chance : Chance σ) (r : Request) (w : τ) (response : Response)
    (w' : τ) (puts : List (String × Dataset)) : Prop where
  refused : ∀ message,
    response = .json 400 (ErrorBody.format.toJson ⟨message⟩) ↔ s.Refuses chance r message
  bad : response.status = 400 ↔ ∃ message, s.Refuses chance r message
  late : response.status = 503 ↔ s.TimesOut chance r
  lost : response.status = 500 ↔ ∃ records e,
    s.Completes chance r records ∧ ((s.store.put chance.key records).run w).1 = .error e ∧ e.IsInternal
  missed : response.status = 404 ↔ ∃ records key,
    s.Completes chance r records ∧ ((s.store.put chance.key records).run w).1 = .error (.notFound key)
  made : response.status = 200 ↔ ∃ records key, s.Completes chance r records ∧
    ((s.store.put chance.key records).run w).1 = .ok key ∧
      response = .json 200 (StoredDataset.format.toJson ⟨key, records⟩)
  known : response.status ∈ [200, 400, 404, 500, 503]
  uncancelled : response.body ≠ (ErrorBody.format.toJson ⟨cancelledMessage⟩).compact
  puts_once : (puts = [] ∧ w' = w ∧ ∀ records, ¬ s.Completes chance r records) ∨
    ∃ records, s.Completes chance r records ∧ puts = [(chance.key, records)] ∧
      w' = ((s.store.put chance.key records).run w).2
  counted : ∀ valid records, s.Accepts r valid → s.Completes chance r records →
    records.length = valid.count.toNat

lemma status_ofStore (e : StoreError) :
    (ApiError.ofStore e).status = 404 ∧ (∃ key, e = .notFound key) ∨ (ApiError.ofStore e).status = 500 ∧ e.IsInternal := by
  cases e with
  | notFound key => exact .inl ⟨rfl, key, rfl⟩
  | files | json => exact .inr ⟨rfl, fun _ h => by cases h⟩

omit [WordSource σ] in
lemma body_ofError_ne_cancelled {e : ApiError} (h : e.message ≠ cancelledMessage) :
    (Response.ofError e).body ≠ (ErrorBody.format.toJson ⟨cancelledMessage⟩).compact :=
  fun hbody => h (compact_errorBody_inj hbody)

lemma outcome_of_refuses {message : String} (h : s.Refuses chance r message) :
    Outcome s chance r w (.ofError (.badRequest message)) w [] := by
  have hstatus : (Response.ofError (.badRequest message)).status = 400 := rfl
  have hlate : ¬ s.TimesOut chance r := h.not_timesOut
  have hnone (records) : ¬ s.Completes chance r records := fun hc => hc.not_refuses h
  exact {
    refused := fun other =>
      ⟨fun heq => compact_errorBody_inj (congrArg Response.body heq) ▸ h, fun hother => by rw [h.unique hother]; rfl⟩
    bad := by simpa [hstatus] using ⟨_, h⟩
    late := by simp [hstatus, hlate]
    lost := by simp [hstatus, hnone]
    missed := by simp [hstatus, hnone]
    made := by simp [hstatus, hnone]
    known := by simp [hstatus]
    uncancelled := body_ofError_ne_cancelled h.message_ne
    puts_once := .inl ⟨rfl, rfl, hnone⟩
    counted := fun valid records _ hc => absurd hc (hnone records) }

lemma outcome_of_timesOut (h : s.TimesOut chance r) :
    Outcome s chance r w (.ofError (.timedOut s.config.timeoutMs)) w [] := by
  have hstatus : (Response.ofError (.timedOut s.config.timeoutMs)).status = 503 := rfl
  have hfine (message) : ¬ s.Refuses chance r message := fun hr => hr.not_timesOut h
  have hnone (records) : ¬ s.Completes chance r records := fun hc => hc.not_timesOut h
  exact {
    refused := fun message => iff_of_false (fun heq => by cases congrArg Response.status heq) (hfine message)
    bad := by simp [hstatus, hfine]
    late := by simp [hstatus, h]
    lost := by simp [hstatus, hnone]
    missed := by simp [hstatus, hnone]
    made := by simp [hstatus, hnone]
    known := by simp [hstatus]
    uncancelled := body_ofError_ne_cancelled (timedOut_message_ne _)
    puts_once := .inl ⟨rfl, rfl, hnone⟩
    counted := fun valid records _ hc => absurd hc (hnone records) }

lemma outcome_of_lost {records : Dataset} {e : StoreError} (h : s.Completes chance r records)
    (hput : (s.store.put chance.key records).run w = (.error e, w')) :
    Outcome s chance r w (.ofError (.ofStore e)) w' [(chance.key, records)] := by
  have hstatus : (Response.ofError (.ofStore e)).status = (ApiError.ofStore e).status := rfl
  have hresult : ((s.store.put chance.key records).run w).1 = .error e := congrArg Prod.fst hput
  have hfine (message) : ¬ s.Refuses chance r message := h.not_refuses
  have honly (records') : s.Completes chance r records' ↔ records' = records :=
    ⟨fun hc => hc.unique h, fun hc => hc ▸ h⟩
  have hlost : (ApiError.ofStore e).status = 500 ↔ e.IsInternal := by
    rcases status_ofStore e with ⟨he, key, rfl⟩ | ⟨he, hinternal⟩
    · exact iff_of_false (by simp [he]) fun hinternal => hinternal key rfl
    · exact iff_of_true he hinternal
  have hmissed : (ApiError.ofStore e).status = 404 ↔ ∃ key, e = .notFound key := by
    rcases status_ofStore e with ⟨he, hkey⟩ | ⟨he, hinternal⟩
    · exact iff_of_true he hkey
    · exact iff_of_false (by simp [he]) fun ⟨key, hkey⟩ => hinternal key hkey
  have hknown : (ApiError.ofStore e).status = 404 ∨ (ApiError.ofStore e).status = 500 :=
    (status_ofStore e).imp And.left And.left
  have hnotBad : (ApiError.ofStore e).status ≠ 400 := by omega
  have hnotLate : (ApiError.ofStore e).status ≠ 503 := by omega
  have hnotMade : (ApiError.ofStore e).status ≠ 200 := by omega
  exact {
    refused := fun message => iff_of_false (fun heq => hnotBad (congrArg Response.status heq)) (hfine message)
    bad := by simp [hstatus, hfine, hnotBad]
    late := by simp [hstatus, h.not_timesOut, hnotLate]
    lost := by simp [hstatus, honly, hresult, hlost]
    missed := by simp [hstatus, honly, hresult, hmissed]
    made := by simp [hstatus, honly, hresult, hnotMade]
    known := by simpa [hstatus, hnotMade, hnotBad, hnotLate] using hknown
    uncancelled := body_ofError_ne_cancelled (ofStore_message_ne e)
    puts_once := .inr ⟨records, h, rfl, (congrArg Prod.snd hput).symm⟩
    counted := fun valid records' ha hc => length_of_completes hc ha }

lemma outcome_of_made {records : Dataset} {key : String} (h : s.Completes chance r records)
    (hput : (s.store.put chance.key records).run w = (.ok key, w')) :
    Outcome s chance r w (.json 200 (StoredDataset.format.toJson ⟨key, records⟩)) w' [(chance.key, records)] := by
  have hstatus : (Response.json 200 (StoredDataset.format.toJson ⟨key, records⟩)).status = 200 := rfl
  have hresult : ((s.store.put chance.key records).run w).1 = .ok key := congrArg Prod.fst hput
  have hfine (message) : ¬ s.Refuses chance r message := h.not_refuses
  have honly (records') : s.Completes chance r records' ↔ records' = records :=
    ⟨fun hc => hc.unique h, fun hc => hc ▸ h⟩
  have hplain (v) (hv : v ∈ records) : v.Plain := (plain_of_generate (generate_of_completes h) v hv).1
  exact {
    refused := fun message => by simp [Response.json, Response.shared, hfine]
    bad := by simp [hstatus, hfine]
    late := by simp [hstatus, h.not_timesOut]
    lost := by simp [hstatus, honly, hresult]
    missed := by simp [hstatus, honly, hresult]
    made := ⟨fun _ => ⟨records, key, h, hresult, rfl⟩, fun _ => hstatus⟩
    known := by simp [hstatus]
    uncancelled := body_stored_ne hplain key cancelledMessage
    puts_once := .inr ⟨records, h, rfl, (congrArg Prod.snd hput).symm⟩
    counted := fun valid records' ha hc => length_of_completes hc ha }

lemma Ends.outcome (h : Ends s chance r w response w' puts) : Outcome s chance r w response w' puts := by
  cases h with
  | refused h => exact outcome_of_refuses h
  | late h => exact outcome_of_timesOut h
  | lost h hput => exact outcome_of_lost h hput
  | made h hput => exact outcome_of_made h hput

/-- The token of a run is the handler's own, so that no generator can fire it. -/
theorem exists_outcome (hq : s.engine.registry.Quiet) (hr : r.Makes) (w : τ) :
    ∃ response w' puts, (s.handle chance r).run w = (response, w') ∧
      (∀ before, (s.recorded.handle chance r).run (w, before) = (response, w', before ++ puts)) ∧
        Outcome s chance r w response w' puts := by
  obtain ⟨response, w', puts, hrun, hrecorded, hends⟩ := exists_ends hq hr w
  exact ⟨response, w', puts, hrun, hrecorded, hends.outcome⟩

section samples

lemma quiet_plainEngine : Engine.plainEngine.registry.Quiet := by
  rintro g (⟨tag, hg⟩ | rfl) source
  · cases hg
  · rfl

lemma makes_samplePost : samplePost.Makes := ⟨rfl, by decide⟩

theorem exists_outcome_sample : sampleService.engine.registry.Quiet ∧ samplePost.Makes ∧
    ∃ response w' puts, (sampleService.handle sampleChance samplePost).run .empty = (response, w') ∧
      (∀ before, (sampleService.recorded.handle sampleChance samplePost).run (.empty, before) =
        (response, w', before ++ puts)) ∧
        Outcome sampleService sampleChance samplePost .empty response w' puts :=
  ⟨quiet_plainEngine, makes_samplePost, exists_outcome (s := sampleService) quiet_plainEngine makes_samplePost .empty⟩

def forgetful : Store (StateM Store.Datasets) := { Store.memory with put := fun key _ => throw (.notFound key) }

def forgetfulService : Service WordCycle (StateM Store.Datasets) := ⟨Engine.plainEngine, forgetful, {}⟩

def sampleBody : String := "\x7b\"schema\":\x7b\"a\":\"x\"\x7d,\"count\":1\x7d"

def paddedBody : String := String.ofList (List.replicate maxBody ' ' ++ sampleBody.toList)

def postOf (body : String) : Request := { samplePost with body := body.toUTF8 }

lemma makes_postOf {body : String} : (postOf body).Makes := makes_samplePost

lemma readBody_postOf {body : String} (h : maxBody < body.utf8ByteSize) : readBody (postOf body) = .error .tooLong := by
  have hmedia : ((samplePost.header? "content-type").bind MediaType.ofText?).any MediaType.isJson := by decide +kernel
  obtain ⟨type, htype, hjson⟩ := (Option.any_eq_true _ _).1 hmedia
  have htype : ((postOf body).header? "content-type").bind MediaType.ofText? = some type := htype
  have hsize : maxBody < (postOf body).body.size := by rwa [postOf, String.toUTF8, String.size_toByteArray]
  rw [readBody]
  simp only [htype, hjson, hsize]
  rfl

lemma utf8Len_blanks (n : ℕ) : String.utf8Len (List.replicate n ' ') = n := by
  induction n with
  | zero => rfl
  | succ n ih =>
    rw [List.replicate_succ, String.utf8Len_cons, ih]
    rfl

lemma utf8ByteSize_padded (n : ℕ) (text : String) :
    (String.ofList (List.replicate n ' ' ++ text.toList)).utf8ByteSize = n + text.utf8ByteSize := by
  rw [String.utf8ByteSize_ofList, String.utf8Len_append, utf8Len_blanks, ← String.utf8ByteSize_ofList,
    String.ofList_toList]

lemma maxBody_lt_paddedBody : maxBody < paddedBody.utf8ByteSize := by
  rw [paddedBody, utf8ByteSize_padded]
  exact Nat.lt_add_of_pos_right (by decide)

lemma valid_paddedBody : ∃ request valid, Specimen.Request.format.read paddedBody = .ok request ∧
    request.validate sampleMemory.config.maxCount = .ok valid := by
  have hblanks : Json.skipBlanks paddedBody.toList = Json.skipBlanks sampleBody.toList := by
    rw [paddedBody, String.toList_ofList, Json.skipBlanks_padded]
  have hread : Specimen.Request.format.read sampleBody = .ok ⟨some (.obj [("a", .str "x")]), some (.nat 1)⟩ := by
    decide +kernel
  exact ⟨_, ⟨.object [("a", .scalar "x")], 1⟩, (Json.Format.read_congr hblanks).2 hread, by decide +kernel⟩

/-- A store may answer to a dataset that it is missing, which is then what the client is told; and a body may be refused
though its text is a valid request. -/
theorem not_lost_forgetful :
    (∃ records key, forgetfulService.Completes sampleChance samplePost records ∧
      ((forgetfulService.store.put sampleChance.key records).run .empty).1 = .error (.notFound key)) ∧
    ((forgetfulService.handle sampleChance samplePost).run .empty).1.status = 404 ∧
    (∃ request valid, Specimen.Request.format.read paddedBody = .ok request ∧
      request.validate sampleMemory.config.maxCount = .ok valid) ∧
    ((sampleMemory.handle sampleChance (postOf paddedBody)).run .empty).1.status = 400 := by
  have hmissed : ((forgetfulService.handle sampleChance samplePost).run .empty).1.status = 404 := by decide +kernel
  have hquiet : forgetfulService.engine.registry.Quiet := quiet_plainEngine
  obtain ⟨response, w', puts, hrun, -, hends⟩ := @exists_ends _ _ _ _ sampleChance _ hquiet makes_samplePost .empty
  have hresponse : response.status = 404 := by rw [← hmissed, hrun]
  have hrefuses : sampleMemory.Refuses sampleChance (postOf paddedBody) BodyError.tooLong.message :=
    .unreadable (readBody_postOf maxBody_lt_paddedBody)
  refine ⟨hends.outcome.missed.1 hresponse, hmissed, valid_paddedBody, ?_⟩
  rw [run_handle_of_makes makes_postOf, generate_of_refuses hrefuses]
  rfl

end samples

end outcome

end Service

end Http

end Specimen
