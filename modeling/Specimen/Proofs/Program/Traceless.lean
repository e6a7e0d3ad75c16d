import Specimen.Proofs.Program.Agreement
import Specimen.Proofs.Program.Logging

namespace Specimen

open Files CommandLine

namespace Files

namespace Disk

variable {P : Path → Prop} {d d' d'' : Disk} {q : Path}

def MadeAt (P : Path → Prop) (d d' : Disk) (q : Path) : Prop :=
  d.GrownAt P d' q ∨ d.find? q = none ∧ d'.find? q = some .directory

namespace MadeAt

lemma of_gains (h : d.GainsDirectories d') (q : Path) : d.MadeAt P d' q := (h q).imp_left .inl

lemma of_find?_eq (h : d'.find? q = d.find? q) : d.MadeAt P d' q := .inl (.inl h)

lemma trans (h : d.MadeAt P d' q) (h' : d'.MadeAt P d'' q) : d.MadeAt P d'' q := by
  rcases h with h | ⟨hnone, hmade⟩
  · rcases h' with h' | ⟨hnone, hmade⟩
    · exact .inl (h.trans h')
    · rcases h with hsame | ⟨-, -, more, hmore⟩
      · exact .inr ⟨hsame.symm.trans hnone, hmade⟩
      · cases hmore.symm.trans hnone
  · rcases h' with (hsame | ⟨-, hfile, -⟩) | ⟨hnone', -⟩
    · exact .inr ⟨hnone, hsame.trans hmade⟩
    · exact absurd hmade hfile
    · cases hmade.symm.trans hnone'

lemma keepsDirectories (h : ∀ q, d.MadeAt P d' q) : d.KeepsDirectories d' := by
  intro q hq
  rcases h q with (hsame | ⟨-, hfile, -⟩) | ⟨hnone, -⟩
  · exact hsame.trans hq
  · exact absurd hq hfile
  · cases hnone.symm.trans hq

end MadeAt

end Disk

lemma written_of_writeText {d d' : Disk} {p : Path} {s : String}
    (h : (writeText p s : ExceptT Fault (StateM Disk) Unit).run d = (.ok (), d')) :
    ∃ place, d.resolve [] p = .ok place ∧ d.find? place ≠ some .directory ∧ d' = d.written place s.toUTF8 := by
  obtain ⟨_, d₁, hcreate, happend⟩ := run_bind_eq_ok_iff.1 h
  obtain ⟨place, hplace, hfile, rfl⟩ := Disk.openFile_eq_ok_iff.1 hcreate
  obtain ⟨place', hplace', -, rfl⟩ := Disk.openFile_eq_ok_iff.1 happend
  cases (Disk.resolve_mono hplace (Disk.keepsDirectories_put hfile)).symm.trans hplace'
  have hempty : (d.put place (.file .empty)).find? place = some (.file .empty) := by
    rw [Disk.find?_put (Disk.ne_root_of_find? hfile), if_pos rfl]
  refine ⟨place, hplace, hfile, ?_⟩
  rw [Disk.content_of_find? hempty, ByteArray.empty_append, Disk.written]

end Files

lemma Store.gains_of_run_put {d d' : Disk} {dir : Path} {key key' : String} {records : Dataset}
    (h : ((directory dir : Store (StateM Disk)).put key records).run d = (.ok key', d')) :
    key' = key ∧ ∃ d₀ place, d.GainsDirectories d₀ ∧ d₀.Walk [] dir place ∧
      d₀.find? (place ++ [documentName key]) ≠ some .directory ∧
      d₀.find? (place ++ [documentName key ++ temporarySuffix]) ≠ some .directory ∧
      d' = d₀.replaced place (documentName key) records.toJson.pretty.toUTF8 := by
  simp only [directory] at h
  obtain ⟨_, _, hr, hk⟩ := run_bind_eq_ok_iff.1 h
  obtain ⟨rfl, rfl⟩ := run_pure_eq_ok_iff.1 hk
  obtain ⟨d₀, place, hgains, hw, -, hdoc, htmp, rfl⟩ :=
    replaced_of_run_replace (documentName_ne_of_short (by decide) key)
      (documentName_ne_of_short (by decide) key) (run_adapt_eq_ok_iff.1 hr)
  exact ⟨rfl, d₀, place, hgains, hw, hdoc, htmp, rfl⟩

lemma ReadOnly.leads {ε τ α : Type} {x : ExceptT ε (StateM τ) α} (h : ReadOnly x) (I : τ → Prop) :
    Leads I x (fun _ => I) (fun _ => I) where
  ok s a s' hs hr := by
    obtain rfl : s' = s := (congrArg Prod.snd hr).symm.trans (h.run_snd s)
    exact hs
  error s e s' hs hr := by
    obtain rfl : s' = s := (congrArg Prod.snd hr).symm.trans (h.run_snd s)
    exact hs

namespace Program

variable {σ : Type} [WordSource σ]

section leads

variable {log : Logger} {I : Machine → Prop} (hemit : ∀ l w, I w → I ((log.emitAll l : StateM Machine Unit).run w).2)

include hemit

lemma leads_emitAll (l : List Log.Event) :
    Leads I (ExceptT.lift (log.emitAll l) : ExceptT ProgramError (StateM Machine) Unit) (fun _ => I) (fun _ => I) where
  ok w _ _ hw hr := by
    cases hr
    exact hemit l w hw
  error _ _ _ _ hr := by cases hr

lemma leads_recordsFor (chance : Chance σ) (c : GenerateCommand) :
    Leads I (recordsFor log chance c) (fun _ => I) (fun _ => I) := by
  rw [recordsFor]
  apply (((readOnly_load c.config {}).leads I).adapt fun _ _ h => h).bind
  intro settings
  apply ((readOnly_readSchema c.schema).leads I).bind
  intro schema
  cases settings.run schema c.count (chance.source c.seed) with
  | error e => exact .throw fun _ h => h
  | ok run =>
    apply (leads_emitAll hemit run.events).bind
    intro _
    cases run.outcome with
    | error e => exact .throw fun _ h => h
    | ok records => exact .pure fun _ h => h

end leads

structure OnlyMade (file : Option Path) (w w' : Machine) : Prop where
  output : w'.output = w.output
  disk : ∀ q, w.disk.MadeAt (LogPlace file w.disk) w'.disk q

inductive Received (file : Option Path) (key text : String) (w w' : Machine) : Sink → Prop
  | output : w'.output = w.output ++ (text ++ "\n") → w.disk.Grown (LogPlace file w.disk) w'.disk →
      Received file key text w w' .output
  | file {path place lines} : w'.output = w.output → w.disk.resolve [] (.ofText path) = .ok place →
      w'.disk.find? place = some (.file (text.toUTF8 ++ lines)) →
      (¬ LogPlace file w.disk place → lines = .empty) →
      (∀ q, q ≠ place → w.disk.GrownAt (LogPlace file w.disk) w'.disk q) →
      Received file key text w w' (.file path)
  | store {path place} : w'.output = w.output ++ (key ++ "\n") → w'.disk.Walk [] (.ofText path) place →
      w'.disk.find? (place ++ [Store.documentName key]) = some (.file text.toUTF8) →
      w'.disk.find? (place ++ [Store.documentName key ++ temporarySuffix]) = none →
      (∀ q, q ≠ place ++ [Store.documentName key] → q ≠ place ++ [Store.documentName key ++ temporarySuffix] →
        w.disk.MadeAt (LogPlace file w.disk) w'.disk q) →
      Received file key text w w' (.store path)

def Apart (file : Option Path) (key : String) : Prop :=
  ∀ p ∈ file, Store.documentName key ∉ p ∧ Store.documentName key ++ temporarySuffix ∉ p

section delivered

variable {log : Logger} {key : String} {records : Dataset} {w w₁ w₂ w' : Machine} {d : Disk}

lemma grown_of_tell (hopen : LogOpen log.file d) (hk : d.KeepsDirectories w.disk) {e : Log.Event} {u : Unit}
    (h : (tell log e : ExceptT ProgramError (StateM Machine) Unit).run w = (.ok u, w')) :
    w'.output = w.output ∧ w.disk.Grown (LogPlace log.file d) w'.disk := by
  cases h
  exact ⟨log.output_of_emit e w, Logger.grown_emit hopen hk e⟩

lemma onDisk_writeText (p : Path) (s : String) : OnDisk (writeText p s) (writeText p s) :=
  (OnDisk.ask _).bind fun _ => OnDisk.ask _

lemma not_logPlace {file : Option Path} {name : String} (h : ∀ p ∈ file, name ∉ p) (d : Disk) (place : Path) :
    ¬ LogPlace file d (place ++ [name]) := by
  rintro ⟨p, hp, hplace⟩
  rcases Disk.mem_of_resolve hplace (List.mem_append_right place (List.mem_singleton.2 rfl)) with hname | hname
  · cases hname
  · exact h p hp hname

variable (h : OnlyLogged log.file w w₁)

include h

lemma received_output {u : Unit}
    (hrun : (deliver log key records .output : ExceptT ProgramError (StateM Machine) Unit).run w₁ = (.ok u, w')) :
    Received log.file key records.toJson.pretty w w' .output := by
  cases hrun
  exact .output (congrArg (· ++ _) h.output) h.disk

variable (hopen : LogOpen log.file w.disk)

include hopen

lemma received_file {path : String} {u : Unit}
    (hrun : (deliver log key records (.file path) : ExceptT ProgramError (StateM Machine) Unit).run w₁ = (.ok u, w')) :
    Received log.file key records.toJson.pretty w w' (.file path) := by
  obtain ⟨_, w₂, hwrite, htell⟩ := run_bind_eq_ok_iff.1 hrun
  have hwrite := run_adapt_eq_ok_iff.1 hwrite
  have houtput : w₂.output = w₁.output :=
    (congrArg (·.2.output) hwrite).symm.trans ((onDisk_writeText _ _).keeps_output w₁)
  obtain ⟨place, hplace, hfile, hdisk⟩ := written_of_writeText ((onDisk_writeText _ _).run_eq_ok hwrite)
  have hroot := Disk.ne_root_of_find? hfile
  have hkeeps : w₁.disk.KeepsDirectories w₂.disk := hdisk ▸ Disk.keepsDirectories_written hfile
  obtain ⟨htold, hgrown⟩ := grown_of_tell hopen (fun q hq => hkeeps q (h.disk.keepsDirectories q hq)) htell
  have hhere : w₂.disk.find? place = some (.file records.toJson.pretty.toUTF8) := by
    rw [hdisk, Disk.find?_written hroot, if_pos rfl]
  obtain ⟨lines, hthere, hnone⟩ := hgrown.find?_file hhere
  refine .file (htold.trans (houtput.trans h.output)) (Disk.resolve_mono hplace h.disk.keepsDirectories_back) hthere
    hnone ?_
  intro q hq
  have hwritten : w₁.disk.GrownAt (LogPlace log.file w.disk) w₂.disk q :=
    .inl (by rw [hdisk, Disk.find?_written hroot, if_neg hq])
  exact ((h.disk q).trans hwritten).trans (hgrown q)

lemma onlyMade_of_open {path : Path} {e : Log.Event} {u u' : Unit}
    (hmake : ((Store.openDirectory path : ExceptT StoreError (StateM Machine) Unit).adapt ProgramError.store).run w₁ =
      (.ok u, w₂))
    (htell : (tell log e : ExceptT ProgramError (StateM Machine) Unit).run w₂ = (.ok u', w')) :
    OnlyMade log.file w w' := by
  have hmake := run_adapt_eq_ok_iff.1 (run_adapt_eq_ok_iff.1 hmake)
  have houtput : w₂.output = w₁.output := (congrArg (·.2.output) hmake).symm.trans ((OnDisk.ask _).keeps_output w₁)
  obtain ⟨hgains, -⟩ := Disk.walk_of_makeDirectories ((OnDisk.ask _).run_eq_ok hmake) (.root _)
  have hmade (q : Path) : w.disk.MadeAt (LogPlace log.file w.disk) w₂.disk q :=
    .trans (.inl (h.disk q)) (.of_gains hgains q)
  obtain ⟨htold, hgrown⟩ := grown_of_tell hopen (Disk.MadeAt.keepsDirectories hmade) htell
  exact ⟨htold.trans (houtput.trans h.output), fun q => (hmade q).trans (.inl (hgrown q))⟩

omit h

lemma received_of_put {path : String} {key' : String} {e : Log.Event} {u : Unit} (h : OnlyMade log.file w w₁)
    (hkey : Apart log.file key)
    (hput : (((Store.directory (.ofText path)).put key records : ExceptT StoreError (StateM Machine) String).adapt
      ProgramError.store).run w₁ = (.ok key', w₂))
    (htell : (tell log e : ExceptT ProgramError (StateM Machine) Unit).run w₂ = (.ok u, w')) :
    Received log.file key records.toJson.pretty w { w' with output := w'.output ++ (key' ++ "\n") } (.store path) := by
  have hput := run_adapt_eq_ok_iff.1 hput
  have houtput : w₂.output = w₁.output := (congrArg (·.2.output) hput).symm.trans ((OnDisk.put _ _ _).keeps_output w₁)
  obtain ⟨rfl, d₀, place, hgains, hwalk, hdoc, htmp, hdisk⟩ :=
    Store.gains_of_run_put ((OnDisk.put _ _ _).run_eq_ok hput)
  have hmade (q : Path) : w.disk.MadeAt (LogPlace log.file w.disk) d₀ q := (h.disk q).trans (.of_gains hgains q)
  have hkeeps : d₀.KeepsDirectories w₂.disk := hdisk ▸ Disk.keepsDirectories_replaced hdoc htmp
  have hfind (q : Path) : w₂.disk.find? q = if q = place ++ [Store.documentName key'] then
      some (.file records.toJson.pretty.toUTF8)
      else if q = place ++ [Store.documentName key' ++ temporarySuffix] then none else d₀.find? q := by
    rw [hdisk, Disk.find?_replaced]
  obtain ⟨htold, hgrown⟩ := grown_of_tell hopen (fun q hq => hkeeps q (Disk.MadeAt.keepsDirectories hmade q hq)) htell
  have hdocument : w₂.disk.find? (place ++ [Store.documentName key']) = some (.file records.toJson.pretty.toUTF8) := by
    rw [hfind, if_pos rfl]
  have htemporary : w₂.disk.find? (place ++ [Store.documentName key' ++ temporarySuffix]) = none := by
    rw [hfind, if_neg fun he => Disk.ne_temporary _ (List.cons.inj (List.append_cancel_left he)).1, if_pos rfl]
  -- the log is in neither of the two files, so they stay as the store leaves them
  refine .store (congrArg (· ++ _) (htold.trans (houtput.trans h.output)))
    (hwalk.mono fun q hq => hgrown.keepsDirectories q (hkeeps q hq))
    (hgrown.find?_eq (not_logPlace (fun p hp => (hkey p hp).1) _ _) hdocument)
    (hgrown.find?_eq (not_logPlace (fun p hp => (hkey p hp).2) _ _) htemporary) ?_
  intro q hq hq'
  have hsame : d₀.MadeAt (LogPlace log.file w.disk) w₂.disk q := .of_find?_eq (by rw [hfind, if_neg hq, if_neg hq'])
  exact ((hmade q).trans hsame).trans (.inl (hgrown q))

include h

lemma received_store {path : String} {u : Unit} (hkey : Apart log.file key)
    (hrun : (deliver log key records (.store path) : ExceptT ProgramError (StateM Machine) Unit).run w₁ = (.ok u, w')) :
    Received log.file key records.toJson.pretty w w' (.store path) := by
  obtain ⟨_, w₂, hmake, hrun⟩ := run_bind_eq_ok_iff.1 hrun
  obtain ⟨_, w₃, htell, hrun⟩ := run_bind_eq_ok_iff.1 hrun
  obtain ⟨key', w₄, hput, hrun⟩ := run_bind_eq_ok_iff.1 hrun
  obtain ⟨_, w₅, htell', hprint⟩ := run_bind_eq_ok_iff.1 hrun
  cases hprint
  exact received_of_put hopen (onlyMade_of_open h hopen hmake htell) hkey hput htell'

lemma received_of_deliver {sink : Sink} {u : Unit} (hkey : ∀ path, sink = .store path → Apart log.file key)
    (hrun : (deliver log key records sink : ExceptT ProgramError (StateM Machine) Unit).run w₁ = (.ok u, w')) :
    Received log.file key records.toJson.pretty w w' sink := by
  cases sink with
  | output => exact received_output h hrun
  | file path => exact received_file h hopen hrun
  | store path => exact received_store h hopen (hkey path rfl) hrun

end delivered

section command

variable {log : Logger} {chance chance' : Chance σ} {c c' : GenerateCommand} {w w' : Machine} {records : Dataset}

lemma Generates.unique {settings settings' : Settings} {schema schema' : Json} {records' : Dataset}
    (h : Generates chance c w settings schema records) (h' : Generates chance' c' w settings' schema' records')
    (hconfig : c.config = c'.config) (hschema : c.schema = c'.schema) (hcount : c.count = c'.count)
    (hsource : chance.source c.seed = chance'.source c'.seed) : records = records' := by
  obtain ⟨run, hrun, hrecords⟩ := h.run
  obtain ⟨run', hrun', hrecords'⟩ := h'.run
  have hload := h'.load
  have hread := h'.read
  rw [← hconfig] at hload
  rw [← hschema] at hread
  cases h.load.symm.trans hload
  cases h.read.symm.trans hread
  rw [← hcount, ← hsource] at hrun'
  cases hrun.symm.trans hrun'
  cases hrecords.symm.trans hrecords'
  rfl

lemma leads_generate (hopen : LogOpen log.file w.disk) (chance : Chance σ) (c : GenerateCommand) :
    Leads (OnlyLogged log.file w) (generate log chance c) (fun _ _ => True)
      (fun e w' => OfDelivery e ∨ OnlyLogged log.file w w') := by
  rw [generate_eq]
  apply ((leads_recordsFor (fun l w' hw' => hw'.emitAll hopen l) chance c).imp (fun _ h => h) (fun _ _ h => h)
    (fun _ _ h => .inr h)).bind
  intro records
  exact (leads_deliver log chance.key records c.sink).imp (fun _ _ => trivial) (fun _ _ _ => trivial)
    (fun _ _ h => .inl h)

end command

abbrev perform (i : Invocation) (filter : String) (chance : Chance σ) (w : Machine) :
    Except ProgramError (Option (Serving σ (StateM Machine))) × Machine :=
  (run i filter chance : ExceptT ProgramError (StateM Machine) (Option (Serving σ (StateM Machine)))).run w

lemma perform_generate (format : LogFormat) (logFile : Option String) (c : GenerateCommand) (filter : String)
    (chance : Chance σ) (w : Machine) : perform ⟨format, logFile, .generate c⟩ filter chance w = (do
      prepareLog logFile
      generate ⟨format, .ofText filter, logFile.map Path.ofText⟩ chance c
      return none : ExceptT ProgramError (StateM Machine) (Option (Serving σ (StateM Machine)))).run w := by
  rw [perform, run, openLog_eq]
  simp only [bind_assoc, pure_bind]

section performed

variable {format : LogFormat} {logFile : Option String} {c : GenerateCommand} {filter : String} {chance : Chance σ}
  {w w' : Machine}

lemma onlyLogged_of_error {e : ProgramError} (h : perform ⟨format, logFile, .generate c⟩ filter chance w = (.error e, w'))
    (he : ¬ OfDelivery e) : OnlyLogged (logFile.map Path.ofText) w w' := by
  rw [perform_generate] at h
  have hprepare := leads_prepareLog logFile w
  cases hlog : (prepareLog logFile).run w with
  | mk r w₁ =>
    cases r with
    | error fault =>
      cases (run_bind_of_error hlog).symm.trans h
      exact hprepare.error w _ w' rfl hlog
    | ok _ =>
      rw [run_bind_of_ok hlog] at h
      obtain ⟨hopen, hlogged⟩ := hprepare.ok w _ w₁ rfl hlog
      let log : Logger := ⟨format, .ofText filter, logFile.map Path.ofText⟩
      have hrest : Leads (OnlyLogged log.file w)
          (do
            generate log chance c
            return none : ExceptT ProgramError (StateM Machine) (Option (Serving σ (StateM Machine))))
          (fun _ _ => True) (fun e w' => OfDelivery e ∨ OnlyLogged log.file w w') :=
        (leads_generate hopen chance c).bind fun _ => .pure fun _ _ => trivial
      exact (hrest.error w₁ e w' hlogged h).resolve_left he

lemma generates_of_ok {r : Option (Serving σ (StateM Machine))}
    (h : perform ⟨format, logFile, .generate c⟩ filter chance w = (.ok r, w')) :
    ∃ w₁ settings schema records, (prepareLog logFile).run w = (.ok (), w₁) ∧
      OnlyLogged (logFile.map Path.ofText) w w₁ ∧ Generates chance c w₁ settings schema records ∧
      ((∀ path, c.sink = .store path → Apart (logFile.map Path.ofText) chance.key) →
        Received (logFile.map Path.ofText) chance.key records.toJson.pretty w w' c.sink) := by
  rw [perform_generate] at h
  let log : Logger := ⟨format, .ofText filter, logFile.map Path.ofText⟩
  obtain ⟨_, w₁, hlog, h⟩ := run_bind_eq_ok_iff.1 h
  obtain ⟨_, w₂, hgenerate, hreturn⟩ := run_bind_eq_ok_iff.1 h
  obtain ⟨-, rfl⟩ := run_pure_eq_ok_iff.1 hreturn
  rw [generate_eq] at hgenerate
  obtain ⟨records, w₃, hrecords, hdeliver⟩ := run_bind_eq_ok_iff.1 hgenerate
  obtain ⟨hopen, hlogged⟩ := (leads_prepareLog logFile w).ok w _ w₁ rfl hlog
  have hmade : OnlyLogged log.file w w₃ :=
    (leads_recordsFor (fun l w' hw' => hw'.emitAll hopen l) chance c).ok w₁ records w₃ hlogged hrecords
  obtain ⟨settings, schema, hgenerates⟩ := generates_of_recordsFor hrecords
  exact ⟨w₁, settings, schema, records, hlog, hlogged, hgenerates,
    fun hkey => received_of_deliver hmade hopen hkey hdeliver⟩

end performed

section samples

def offLog : Logger := ⟨.pretty, ⟨[⟨"", 0⟩]⟩, none⟩

lemma silent_offLog (l : List Log.Event) (w : Machine) : ((offLog.emitAll l : StateM Machine Unit).run w).2 = w := by
  induction l with
  | nil => rfl
  | cons e rest ih =>
    have hquiet : offLog.filter.admits e = false := by
      cases e with
      | mk level => cases level <;> rfl
    have hfirst : (offLog.emit e : StateM Machine Unit) = pure () := by
      rw [Logger.emit, hquiet]
      rfl
    rw [Logger.emitAll, hfirst]
    exact ih

def offRun (sink : Sink) (w : Machine) : Except ProgramError (Option (Serving WordCycle (StateM Machine))) × Machine :=
  perform ⟨.pretty, none, .generate { printCommand with sink := sink }⟩ "off" sampleChance w

lemma offRun_eq (sink : Sink) (w : Machine) : offRun sink w = (do
    generate offLog sampleChance { printCommand with sink := sink }
    return none : ExceptT ProgramError (StateM Machine) (Option (Serving WordCycle (StateM Machine)))).run w := by
  have hfilter : Log.Filter.ofText "off" = ⟨[⟨"", 0⟩]⟩ := by decide +kernel
  rw [offRun, perform_generate, hfilter]
  rfl

lemma run_generate_sample (sink : Sink) :
    (generate offLog sampleChance { printCommand with sink := sink } : ExceptT ProgramError (StateM Machine) Unit).run
      (machineOf plainText) =
    (deliver offLog "k" sampleRecords sink : ExceptT ProgramError (StateM Machine) Unit).run (machineOf plainText) := by
  have hparse : Json.parse plainText = .ok sampleSchema := by decide +kernel
  have hobtains : Obtains offLog sampleChance { printCommand with sink := sink } (machineOf plainText) sampleRecords :=
    obtains_of_make (load_machineOf plainText) (run_readSchema (read_machineOf plainText) hparse) make_sampleSchema
  obtain ⟨w', hrecords, hdeliver⟩ := hobtains
  obtain ⟨settings, schema, hgenerates⟩ := generates_of_recordsFor hrecords
  obtain ⟨l, hrecords'⟩ := recordsFor_of_generates offLog hgenerates
  rw [silent_offLog] at hrecords'
  cases hrecords.symm.trans hrecords'
  exact hdeliver

lemma exists_offRun {sink : Sink} (h : sink ∈ [Sink.output, .file "o", .store "d"]) :
    ∃ w', offRun sink (machineOf plainText) = (.ok none, w') := by
  have hdeliver : ∃ w', (deliver offLog "k" sampleRecords sink : ExceptT ProgramError (StateM Machine) Unit).run
      (machineOf plainText) = (.ok (), w') := by
    simp only [List.mem_cons, List.not_mem_nil, or_false] at h
    rcases h with rfl | rfl | rfl <;> exact ⟨_, rfl⟩
  obtain ⟨w', hdeliver⟩ := hdeliver
  refine ⟨w', ?_⟩
  rw [offRun_eq, run_bind_of_ok ((run_generate_sample sink).trans hdeliver)]
  rfl

lemma offRun_empty : offRun (.store "d") {} = (.error (.read "s" .notFound), {}) := by
  have hload : ((Settings.load none {} : ExceptT Settings.LoadError (StateM Machine) Settings).adapt
      ProgramError.settings).run {} = (.ok {}, {}) := rfl
  have hread : (readSchema "s" : ExceptT ProgramError (StateM Machine) Json).run {} = (.error (.read "s" .notFound), {}) := by
    rfl
  have hgenerate : (generate offLog sampleChance { printCommand with sink := .store "d" } :
      ExceptT ProgramError (StateM Machine) Unit).run {} = (.error (.read "s" .notFound), {}) := by
    rw [generate, printCommand, run_bind_of_ok hload, run_bind_of_error hread]
  rw [offRun_eq, run_bind_of_error hgenerate]

end samples

end Program

end Specimen
