import Specimen.Proofs.Http.Carrying
import Specimen.Proofs.Program.Readable

/-! The body of a request holds the text of the schema that the command finds in a file. -/

namespace Specimen

namespace Http

def Response.Shows (response : Response) (records : Dataset) : Prop :=
  ∃ key, response = .json 200 (StoredDataset.format.toJson ⟨key, records⟩) ∧ ∀ v ∈ records, v.Plain

lemma Response.Shows.unique {response : Response} {records records' : Dataset} (h : response.Shows records)
    (h' : response.Shows records') : records = records' := by
  obtain ⟨key, he, hp⟩ := h
  obtain ⟨key', he', hp'⟩ := h'
  exact (Exchange.json_stored_inj hp hp' (he.symm.trans he')).2

end Http

lemma Request.validate_absent (maxCount : UInt64) (v : Json) (count : UInt64) :
    Request.validate maxCount ⟨if v = .null then none else some v, some (.nat count)⟩ =
      (Request.ofCount v count).validate maxCount := by
  by_cases hv : v = .null
  · subst hv
    rfl
  · rw [if_neg hv, Request.ofCount]

namespace Settings

variable {σ τ : Type} [WordSource σ]

def make (s : Settings) (schema : Json) (count : UInt64) (source : σ) : Except String Dataset :=
  match s.run schema count source with
  | .error e => .error e.message
  | .ok run => run.outcome.mapError GenerationError.message

def service {m : Type → Type} (s : Settings) (store : Store m) : Http.Service σ m := ⟨s.engine, store, s.config⟩

section service

open Http

variable {settings : Settings} {store : Store (StateM τ)} {u : τ} {chance : Chance σ}
    {r : Http.Request} {text : String} {count : UInt64} {v : Json} {records : Dataset} {message : String}

variable (hr : r.Carries text count) (ht : Json.document (Json.value .strict 126) text = .ok v)
  (hintime : chance.timesOut = false)

lemma quiet_engine (settings : Settings) : (settings.engine : Engine σ).registry.Quiet := Registry.quiet_builtIn

include hr ht hintime

lemma completes_of_make (h : settings.make v count chance.source = .ok records) :
    (settings.service store : Service σ (StateM τ)).Completes chance r records := by
  have hbody := readBody_of_document hr ht
  rw [make, run, ← Request.validate_absent] at h
  cases hvalid : Request.validate settings.maxCount ⟨if v = .null then none else some v, some (.nat count)⟩ with
  | error e => simp [hvalid] at h
  | ok valid =>
    have haccepts : (settings.service store : Service σ (StateM τ)).Accepts r valid := ⟨_, hbody, hvalid⟩
    cases ho : (settings.engine.run valid.schema valid.count none "" chance.source).outcome with
    | error e => simp [hvalid, ho, Except.mapError] at h
    | ok l =>
      simp only [hvalid, ho] at h
      cases h
      refine ⟨valid, haccepts, hintime, ?_⟩
      rw [Service.runOf, service, Engine.run_of_quiet (quiet_engine settings) (Service.sized_of_accepts haccepts), ho]

lemma refuses_of_make (h : settings.make v count chance.source = .error message) :
    (settings.service store : Service σ (StateM τ)).Refuses chance r message := by
  have hbody := readBody_of_document hr ht
  rw [make, run, ← Request.validate_absent] at h
  cases hvalid : Request.validate settings.maxCount ⟨if v = .null then none else some v, some (.nat count)⟩ with
  | error e =>
    simp only [hvalid] at h
    cases h
    exact .invalid hbody hvalid
  | ok valid =>
    have haccepts : (settings.service store : Service σ (StateM τ)).Accepts r valid := ⟨_, hbody, hvalid⟩
    have hsized := Service.sized_of_accepts haccepts
    cases ho : (settings.engine.run valid.schema valid.count none "" chance.source).outcome with
    | error fault =>
      simp only [hvalid, ho] at h
      cases h
      refine .failed haccepts hintime ?_ (Engine.isLimit_of_run hsized ho)
      rw [Service.runOf, service, Engine.run_of_quiet (quiet_engine settings) hsized, ho]
    | ok l => simp [hvalid, ho, Except.mapError] at h

abbrev response (settings : Settings) (store : Store (StateM τ)) (chance : Chance σ) (r : Http.Request) (u : τ) :
    Response :=
  (((settings.service store : Service σ (StateM τ)).handle chance r).run u).1

variable (hput : ∀ records, ∃ key u', (store.put chance.key records).run u = (.ok key, u'))

include hput in
lemma shows_of_make (h : settings.make v count chance.source = .ok records) :
    (settings.response store chance r u).Shows records := by
  have hmade : (settings.service store : Service σ (StateM τ)).generate chance r = .ok records :=
    Service.generate_of_completes (completes_of_make hr ht hintime h)
  obtain ⟨key, u', hkey⟩ := hput records
  refine ⟨key, ?_, fun v hv => (Service.plain_of_generate hmade v hv).1⟩
  rw [response, Service.run_handle_of_makes hr.makes, hmade]
  simp only [Service.settle, service, hkey]

lemma refused_of_make (h : settings.make v count chance.source = .error message) :
    settings.response store chance r u = .json 400 (ErrorBody.format.toJson ⟨message⟩) := by
  have hrefuses : (settings.service store : Service σ (StateM τ)).Refuses chance r message :=
    refuses_of_make hr ht hintime h
  rw [response, Service.run_handle_of_makes hr.makes, Service.generate_of_refuses hrefuses]
  rfl

include hput

lemma shows_iff : (settings.response store chance r u).Shows records ↔
    settings.make v count chance.source = .ok records := by
  -- what else could have been made would show in the status or in the body
  refine ⟨fun hshows => ?_, shows_of_make hr ht hintime hput⟩
  cases hm : settings.make v count chance.source with
  | error message =>
    obtain ⟨key, hok, -⟩ := hshows
    cases congrArg Response.status ((refused_of_make hr ht hintime hm).symm.trans hok)
  | ok l => rw [hshows.unique (shows_of_make hr ht hintime hput hm)]

lemma refused_iff : settings.response store chance r u = .json 400 (ErrorBody.format.toJson ⟨message⟩) ↔
    settings.make v count chance.source = .error message := by
  refine ⟨fun hrefused => ?_, refused_of_make hr ht hintime⟩
  cases hm : settings.make v count chance.source with
  | error message' =>
    have hother : settings.response store chance r u = .json 400 (ErrorBody.format.toJson ⟨message'⟩) :=
      refused_of_make hr ht hintime hm
    rw [Service.compact_errorBody_inj (congrArg Response.body (hother.symm.trans hrefused))]
  | ok l =>
    obtain ⟨key, hok, -⟩ := shows_of_make hr ht hintime hput hm
    cases congrArg Response.status (hok.symm.trans hrefused)

end service

end Settings

open Files CommandLine

namespace Program

variable {σ : Type} [WordSource σ]

section delivering

inductive OfDelivery : ProgramError → Prop
  | store (e) : OfDelivery (.store e)
  | output (fault) : OfDelivery (.output fault)

lemma leads_adapt {ε α : Type} (x : ExceptT ε (StateM Machine) α) {g : ε → ProgramError} (hg : ∀ e, OfDelivery (g e)) :
    Leads (fun _ => True) (x.adapt g) (fun _ _ => True) (fun e _ => OfDelivery e) := by
  have hx : Leads (fun _ => True) x (fun _ _ => True) (fun _ _ => True) :=
    ⟨fun _ _ _ _ _ => trivial, fun _ _ _ _ _ => trivial⟩
  exact hx.adapt fun e _ _ => hg e

lemma leads_lift {α : Type} (y : StateM Machine α) :
    Leads (fun _ => True) (ExceptT.lift y : ExceptT ProgramError (StateM Machine) α) (fun _ _ => True)
      (fun e _ => OfDelivery e) where
  ok _ _ _ _ _ := trivial
  error _ _ _ _ h := by cases h

lemma leads_deliver (log : Logger) (key : String) (records : Dataset) (sink : Sink) :
    Leads (fun _ => True) (deliver log key records sink : ExceptT ProgramError (StateM Machine) Unit) (fun _ _ => True)
      (fun e _ => OfDelivery e) := by
  cases sink with
  | output => exact leads_lift _
  | file path => exact (leads_adapt _ .output).bind fun _ => leads_lift _
  | store path =>
    exact (leads_adapt _ .store).bind fun _ => (leads_lift _).bind fun _ =>
      (leads_adapt _ .store).bind fun _ => (leads_lift _).bind fun _ => leads_lift _

end delivering

section command

variable (log : Logger) (chance : Chance σ) (c : GenerateCommand) (w : Machine)

def Obtains (records : Dataset) : Prop :=
  ∃ w', (recordsFor log chance c : ExceptT ProgramError (StateM Machine) Dataset).run w = (.ok records, w') ∧
    (generate log chance c : ExceptT ProgramError (StateM Machine) Unit).run w =
      (deliver log chance.key records c.sink : ExceptT ProgramError (StateM Machine) Unit).run w'

def FailsWith (message : String) : Prop :=
  ∃ e w', (generate log chance c : ExceptT ProgramError (StateM Machine) Unit).run w = (.error e, w') ∧
    ((∃ q, e = .request q ∧ q.message = message) ∨ ∃ g, e = .generation g ∧ g.message = message)

variable {log chance c w} {settings : Settings} {schema : Json} {records : Dataset} {message : String}

variable
  (hload : (Settings.load c.config {} : ExceptT Settings.LoadError (StateM Machine) Settings).run w = (.ok settings, w))
  (hread : (readSchema c.schema : ExceptT ProgramError (StateM Machine) Json).run w = (.ok schema, w))

include hload hread

lemma obtains_of_make (h : settings.make schema c.count (chance.source c.seed) = .ok records) :
    Obtains log chance c w records := by
  rw [Settings.make] at h
  cases hrun : settings.run schema c.count (chance.source c.seed) with
  | error e => simp [hrun] at h
  | ok run =>
    cases ho : run.outcome with
    | error e => simp [hrun, ho, Except.mapError] at h
    | ok l =>
      simp only [hrun, ho] at h
      cases h
      obtain ⟨events, hrecords⟩ := recordsFor_of_generates log ⟨hload, hread, run, hrun, ho⟩
      refine ⟨_, hrecords, ?_⟩
      rw [generate_eq, run_bind_of_ok hrecords]

lemma exists_error_of_make (h : settings.make schema c.count (chance.source c.seed) = .error message) :
    ∃ e w', (recordsFor log chance c : ExceptT ProgramError (StateM Machine) Dataset).run w = (.error e, w') ∧
      ((∃ q, e = .request q ∧ q.message = message) ∨ ∃ g, e = .generation g ∧ g.message = message) := by
  rw [Settings.make] at h
  rw [recordsFor, run_bind_of_ok (run_adapt_eq_ok_iff.2 hload), run_bind_of_ok hread]
  cases hrun : settings.run schema c.count (chance.source c.seed) with
  | error q =>
    simp only [hrun] at h ⊢
    cases h
    exact ⟨_, _, rfl, .inl ⟨q, rfl, rfl⟩⟩
  | ok run =>
    cases ho : run.outcome with
    | error g =>
      simp only [hrun, ho] at h ⊢
      cases h
      rw [run_bind_of_ok (run_lift _)]
      exact ⟨_, _, rfl, .inr ⟨g, rfl, rfl⟩⟩
    | ok l => simp [hrun, ho, Except.mapError] at h

lemma obtains_iff : Obtains log chance c w records ↔
    settings.make schema c.count (chance.source c.seed) = .ok records := by
  refine ⟨fun ⟨w', hrun, _⟩ => ?_, obtains_of_make hload hread⟩
  cases hm : settings.make schema c.count (chance.source c.seed) with
  | error message =>
    obtain ⟨e, u, herror, -⟩ := exists_error_of_make hload hread hm
    cases hrun.symm.trans herror
  | ok l =>
    obtain ⟨u, hok, -⟩ := obtains_of_make hload hread hm
    cases hrun.symm.trans hok
    rfl

lemma failsWith_iff : FailsWith log chance c w message ↔
    settings.make schema c.count (chance.source c.seed) = .error message := by
  constructor
  · rintro ⟨e, w', hrun, he⟩
    cases hm : settings.make schema c.count (chance.source c.seed) with
    | error message' =>
      obtain ⟨e', u, herror, he'⟩ := exists_error_of_make hload hread hm
      rw [generate_eq, run_bind_of_error herror] at hrun
      cases hrun
      rcases he with ⟨q, rfl, rfl⟩ | ⟨g, rfl, rfl⟩ <;> rcases he' with ⟨_, he, rfl⟩ | ⟨_, he, rfl⟩ <;> cases he <;> rfl
    | ok l =>
      -- once there are records only their delivery can fail
      obtain ⟨u, -, hdeliver⟩ := obtains_of_make hload hread hm
      have hlate := (leads_deliver log chance.key l c.sink).error u e w' trivial (hdeliver.symm.trans hrun)
      rcases he with ⟨q, rfl, -⟩ | ⟨g, rfl, -⟩ <;> cases hlate
  · intro hm
    obtain ⟨e, w', herror, he⟩ := exists_error_of_make hload hread hm
    exact ⟨e, w', by rw [generate_eq, run_bind_of_error herror], he⟩

end command

section agreement

variable {τ : Type} {log : Logger} {chance : Chance σ} {c : GenerateCommand} {w : Machine} {settings : Settings}
    {text : String} {v : Json} {store : Store (StateM τ)} {u : τ} {other : Http.Chance σ} {r : Http.Request}

/-- A command and a request for as many records of one schema, with the same settings and the same source of words:
both end in the same records, or in errors that say the same. Within the request the schema lies one level deeper than
in its file, and so may nest one level less; members that are named again later count as well. -/
theorem generate_agrees
    (hload : (Settings.load c.config {} : ExceptT Settings.LoadError (StateM Machine) Settings).run w =
      (.ok settings, w))
    (hfile : (Call.read (.ofText c.schema)).run w.disk = (.ok text.toUTF8, w.disk))
    (ht : Json.document (Json.value .strict 126) text = .ok v)
    (hr : r.Carries text c.count) (hsource : other.source = chance.source c.seed) (hintime : other.timesOut = false)
    (hput : ∀ records, ∃ key u', (store.put other.key records).run u = (.ok key, u')) :
    (∀ records, Obtains log chance c w records ↔ (settings.response store other r u).Shows records) ∧
      ∀ message, FailsWith log chance c w message ↔
        settings.response store other r u = .json 400 (ErrorBody.format.toJson ⟨message⟩) := by
  have hparse : Json.parse text = .ok v := by
    obtain ⟨rest, hv, hrest⟩ := Json.document_eq_ok_iff.1 ht
    exact Json.document_eq_ok_iff.2 ⟨rest, Json.gives_value_mono (by decide) hv, hrest⟩
  have hread := run_readSchema hfile hparse
  constructor
  · intro records
    rw [obtains_iff hload hread, Settings.shows_iff hr ht hintime hput, hsource]
  · intro message
    rw [failsWith_iff hload hread, Settings.refused_iff hr ht hintime hput, hsource]

end agreement

section samples

def machineOf (text : String) : Machine := { disk := Disk.empty.put ["s"] (.file text.toUTF8) }

def printCommand : GenerateCommand := ⟨"s", 1, none, .output, none⟩

def postFor (text : String) : Http.Request :=
  { Http.Service.samplePost with body := (Request.textFor text 1).toUTF8 }

def memoryResponse (text : String) : Http.Response :=
  Settings.response {} Store.memory Http.Service.sampleChance (postFor text) .empty

lemma load_machineOf (text : String) :
    (Settings.load printCommand.config {} : ExceptT Settings.LoadError (StateM Machine) Settings).run (machineOf text) =
      (.ok {}, machineOf text) := rfl

lemma read_machineOf (text : String) : (Call.read (.ofText printCommand.schema)).run (machineOf text).disk =
    (.ok text.toUTF8, (machineOf text).disk) := by
  rfl

lemma makes_postFor {text : String} : (postFor text).Makes := by
  have hpath : Http.Resource.ofPath? Http.Service.samplePost.path = some .generateData := by decide
  exact ⟨rfl, hpath⟩

lemma media_postFor {text : String} :
    ∃ type, ((postFor text).header? "content-type").bind Http.MediaType.ofText? = some type ∧ type.isJson := by
  have hjson : ((Http.Service.samplePost.header? "content-type").bind Http.MediaType.ofText?).any
      Http.MediaType.isJson := by decide +kernel
  exact (Option.any_eq_true _ _).1 hjson

lemma carries_postFor {text : String} (h : (Request.textFor text 1).toUTF8.size ≤ Http.maxBody) :
    (postFor text).Carries text printCommand.count where
  makes := makes_postFor
  media := media_postFor
  body := rfl
  size_le := h

lemma works_memory (records : Dataset) : ∃ key u',
    (Store.memory.put Http.Service.sampleChance.key records).run .empty = (.ok key, u') := ⟨_, _, rfl⟩

def sampleSchema : Json := .obj [("a", .str "x")]

def sampleRecords : Dataset := [.obj [("a", .str "alias")]]

lemma make_sampleSchema : ({} : Settings).make sampleSchema printCommand.count (sampleChance.source printCommand.seed) =
    .ok sampleRecords := by
  decide +kernel

lemma obtains_machineOf {text : String} (h : Json.parse text = .ok sampleSchema) :
    Obtains quietLog sampleChance printCommand (machineOf text) sampleRecords :=
  obtains_of_make (load_machineOf text) (run_readSchema (read_machineOf text) h) make_sampleSchema

def plainText : String := "\x7b\"a\": \"x\"\x7d"

theorem generate_agrees_sample :
    Json.document (Json.value .strict 126) plainText = .ok sampleSchema ∧
      (postFor plainText).Carries plainText printCommand.count ∧
      Obtains quietLog sampleChance printCommand (machineOf plainText) sampleRecords ∧
      (∀ records, Obtains quietLog sampleChance printCommand (machineOf plainText) records ↔
        (memoryResponse plainText).Shows records) ∧
      ∀ message, FailsWith quietLog sampleChance printCommand (machineOf plainText) message ↔
        memoryResponse plainText = .json 400 (ErrorBody.format.toJson ⟨message⟩) := by
  have hparse : Json.parse plainText = .ok sampleSchema := by decide +kernel
  have htext : Json.document (Json.value .strict 126) plainText = .ok sampleSchema := by decide +kernel
  have hsize : (Request.textFor plainText 1).toUTF8.size ≤ Http.maxBody := by decide +kernel
  exact ⟨htext, carries_postFor hsize, obtains_machineOf hparse, generate_agrees (load_machineOf plainText) (read_machineOf plainText) htext
    (carries_postFor hsize) rfl rfl works_memory⟩

def Disagree (text : String) : Prop :=
  ∃ v records, Json.parse text = .ok v ∧ v.nesting ≤ 126 ∧
    Obtains quietLog sampleChance printCommand (machineOf text) records ∧ ¬ (memoryResponse text).Shows records

lemma disagree_of_unreadable {text : String} {e : Http.BodyError} (hparse : Json.parse text = .ok sampleSchema)
    (hbody : Http.readBody (postFor text) = .error e) : Disagree text := by
  refine ⟨sampleSchema, sampleRecords, hparse, by decide, obtains_machineOf hparse, ?_⟩
  rintro ⟨key, hshown, -⟩
  have hrefuses : (Settings.service {} Store.memory : Http.Service WordCycle (StateM Store.Datasets)).Refuses
      Http.Service.sampleChance (postFor text) e.message := .unreadable hbody
  rw [memoryResponse, Settings.response, Http.Service.run_handle_of_makes makes_postFor,
    Http.Service.generate_of_refuses hrefuses] at hshown
  cases congrArg Http.Response.status hshown

def maskedChars : List Char :=
  "\x7b\"a\":".toList ++ (List.replicate 126 '[' ++ List.replicate 126 ']') ++ ",\"a\":\"x\"\x7d".toList

/-- Its value nests one level only, but the member that is named again nests as deep as a document may. -/
def maskedText : String := String.ofList maskedChars

lemma document_of_toList {α : Type} {read : Json.Reader α} {s : String} {l : List Char} (h : s.toList = l) :
    Json.document read s =
      match read l with
      | .error f => .error f
      | .ok (a, r) => if Json.skipBlanks r = [] then .ok a else .error .malformed := by
  subst h
  rw [Json.document]
  rcases read s.toList with _ | ⟨_, _⟩ <;> rfl

lemma parse_maskedText : Json.parse maskedText = .ok sampleSchema := by
  have hchars : maskedText.toList = maskedChars := String.toList_ofList
  rw [Json.parse, document_of_toList hchars]
  decide +kernel

lemma read_textFor_maskedText : Request.format.read (Request.textFor maskedText 1) = .error .malformed := by
  have hchars : maskedText.toList = maskedChars := String.toList_ofList
  rw [Json.Format.read, document_of_toList (Request.toList_textFor maskedText 1), hchars]
  decide +kernel

lemma carries_maskedText : (postFor maskedText).Carries maskedText 1 := carries_postFor (by decide +kernel)

lemma disagree_maskedText : Disagree maskedText := by
  refine disagree_of_unreadable parse_maskedText (e := .notJson) ?_
  rw [Http.readBody_of_carries carries_maskedText, read_textFor_maskedText]

def paddedText : String := String.ofList (List.replicate Http.maxBody ' ' ++ plainText.toList)

lemma parse_padded (n : Nat) {text : String} {v : Json} (h : Json.parse text = .ok v) :
    Json.parse (String.ofList (List.replicate n ' ' ++ text.toList)) = .ok v := by
  obtain ⟨rest, hv, hrest⟩ := Json.document_eq_ok_iff.1 h
  refine Json.document_eq_ok_iff.2 ⟨rest, ?_, hrest⟩
  rw [String.toList_ofList]
  exact (Json.gives_value_congr (Json.skipBlanks_padded n text.toList)).2 hv

lemma lt_size_textFor (n : Nat) (text : String) (count : UInt64) :
    n < (Request.textFor (String.ofList (List.replicate n ' ' ++ text.toList)) count).toUTF8.size := by
  have hstart : ("\x7b\"schema\": " : String).utf8ByteSize = 11 := by decide
  have hblanks : n ≤ (String.ofList (List.replicate n ' ' ++ text.toList)).utf8ByteSize := by
    rw [Http.Service.utf8ByteSize_padded]
    exact Nat.le_add_right _ _
  rw [String.toUTF8, String.size_toByteArray, Request.textFor, String.utf8ByteSize_append, String.utf8ByteSize_append,
    hstart]
  omega

lemma disagree_paddedText : Disagree paddedText := by
  refine disagree_of_unreadable (e := .tooLong) (parse_padded _ (by decide +kernel)) ?_
  obtain ⟨type, hmedia, hjson⟩ : ∃ type, ((postFor paddedText).header? "content-type").bind Http.MediaType.ofText? =
      some type ∧ type.isJson := media_postFor
  have hsize : Http.maxBody < (postFor paddedText).body.size := lt_size_textFor Http.maxBody plainText 1
  rw [Http.readBody]
  simp only [hmedia, hjson, hsize]
  rfl

theorem not_generate_agrees : Disagree maskedText ∧ Disagree paddedText := ⟨disagree_maskedText, disagree_paddedText⟩

end samples

end Program

end Specimen
