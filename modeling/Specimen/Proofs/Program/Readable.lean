import Specimen.Program.Run
import Specimen.Proofs.Engine.Nesting
import Specimen.Proofs.Program.Machine

namespace Specimen

open Files CommandLine

section reading

lemma readOnly_readText (p : Path) : ReadOnly (readText p : ExceptT Fault (StateM Machine) String) := by
  apply ((OnDisk.ask (.read p)).readOnly (readOnly_ask_read p)).bind
  intro content
  cases String.fromUTF8? content with
  | some s => exact .pure s
  | none => exact .throw _

lemma readOnly_load (path : Option String) (upper : Settings.Layer) :
    ReadOnly (Settings.load path upper : ExceptT Settings.LoadError (StateM Machine) Settings) := by
  have hlayer :
      ReadOnly (Settings.Layer.load path : ExceptT Settings.LoadError (StateM Machine) Settings.Layer) := by
    cases path with
    | none => exact .pure _
    | some p =>
      apply ((readOnly_readText _).adapt _).bind
      intro content
      cases Settings.Layer.ofText? content with
      | some layer => exact .pure layer
      | none => exact .throw _
  apply hlayer.bind
  intro file
  dsimp only
  cases (upper.onto (file.onto {})).validate with
  | ok => exact .pure _
  | error fault => exact .throw _

lemma readOnly_readSchema (path : String) :
    ReadOnly (Program.readSchema path : ExceptT ProgramError (StateM Machine) Json) := by
  apply ((readOnly_readText _).adapt _).bind
  intro text
  cases Json.parse text with
  | ok v => exact .pure v
  | error fault => exact .throw _

lemma run_readText {w : Machine} {p : Path} {text : String}
    (h : (Call.read p).run w.disk = (.ok text.toUTF8, w.disk)) :
    (readText p : ExceptT Fault (StateM Machine) String).run w = (.ok text, w) := by
  have hask : (ask (.read p) : ExceptT Fault (StateM Machine) ByteArray).run w = (.ok text.toUTF8, w) := by
    rw [OnDisk.ask _ w, run_ask, h]
  rw [Files.readText, run_bind_of_ok hask]
  simp only [fromUTF8?_toUTF8]
  rfl

lemma run_readSchema {w : Machine} {path text : String} {v : Json}
    (h : (Call.read (.ofText path)).run w.disk = (.ok text.toUTF8, w.disk)) (hv : Json.parse text = .ok v) :
    (Program.readSchema path : ExceptT ProgramError (StateM Machine) Json).run w = (.ok v, w) := by
  rw [Program.readSchema, run_bind_of_ok (run_adapt_eq_ok_iff.2 (run_readText h))]
  simp only [hv]
  rfl

end reading

namespace Program

variable {σ : Type} [WordSource σ]

section parts

variable {m : Type → Type} [Monad m] [Files.Access m] [Console m]

def recordsFor (log : Logger) (chance : Chance σ) (c : GenerateCommand) : ExceptT ProgramError m Dataset := do
  let settings ← (Settings.load c.config {}).adapt .settings
  let schema ← readSchema c.schema
  match settings.run schema c.count (chance.source c.seed) with
  | .error e => throw (.request e)
  | .ok run =>
    ExceptT.lift (log.emitAll run.events)
    match run.outcome with
    | .error e => throw (.generation e)
    | .ok records => return records

def keep (log : Logger) (key : String) (records : Dataset) (path : String) :
    ExceptT ProgramError m String := do
  (Store.openDirectory (.ofText path)).adapt .store
  tell log Log.storeOpened
  let key ← ((Store.directory (.ofText path)).put key records).adapt .store
  tell log Log.datasetStored
  return key

lemma deliver_store_eq (log : Logger) (key : String) (records : Dataset) (path : String) :
    (deliver log key records (.store path) : ExceptT ProgramError (StateM Machine) Unit) =
      keep log key records path >>= fun key => print (key ++ "\n") := by
  simp [deliver, keep]

lemma generate_eq (log : Logger) (chance : Chance σ) (c : GenerateCommand) :
    (generate log chance c : ExceptT ProgramError (StateM Machine) Unit) =
      recordsFor log chance c >>= fun records => deliver log chance.key records c.sink := by
  simp only [generate, recordsFor, bind_assoc]
  refine congrArg _ (funext fun settings => congrArg _ (funext fun schema => ?_))
  cases settings.run schema c.count (chance.source c.seed) with
  | error e => rfl
  | ok run =>
    dsimp only
    rw [bind_assoc]
    refine congrArg _ (funext fun _ => ?_)
    cases run.outcome with
    | error e => rfl
    | ok records => rw [pure_bind]

end parts

section storing

variable {log : Logger} {key : String} {records : Dataset} {path : String} {w w' : Machine}

lemma keeps_output_tell (log : Logger) (e : Log.Event) :
    Keeps Machine.output (tell log e : ExceptT ProgramError (StateM Machine) Unit) :=
  fun w => log.output_of_emit e w

lemma keeps_output_keep (log : Logger) (key : String) (records : Dataset) (path : String) :
    Keeps Machine.output (keep log key records path : ExceptT ProgramError (StateM Machine) String) := by
  have hopen :=
    ((OnDisk.ask (.makeDirectories (.ofText path))).adapt StoreError.ofFault).adapt ProgramError.store
  have hput := (OnDisk.put (.ofText path) key records).adapt ProgramError.store
  exact hopen.keeps_output.bind fun _ => (keeps_output_tell log _).bind fun _ =>
    hput.keeps_output.bind fun _ =>
    (keeps_output_tell log _).bind fun _ => .pure _

lemma holds_of_keep {key' : String} (hlog : ∀ p ∈ log.file, Store.documentName key ∉ p)
    (h : (keep log key records path : ExceptT ProgramError (StateM Machine) String).run w = (.ok key', w')) :
    key' = key ∧ Store.Holds w'.disk (.ofText path) key records := by
  obtain ⟨_, w₁, -, h⟩ := run_bind_eq_ok_iff.1 h
  obtain ⟨_, w₂, -, h⟩ := run_bind_eq_ok_iff.1 h
  obtain ⟨stored, w₃, hput, h⟩ := run_bind_eq_ok_iff.1 h
  obtain ⟨_, w₄, htell, h⟩ := run_bind_eq_ok_iff.1 h
  obtain ⟨rfl, rfl⟩ := run_pure_eq_ok_iff.1 h
  obtain ⟨rfl, hholds⟩ := Store.holds_of_run_put ((OnDisk.put _ _ _).run_eq_ok (run_adapt_eq_ok_iff.1 hput))
  cases htell
  exact ⟨rfl, log.holds_of_emit _ w₃ hlog hholds⟩

end storing

section generating

variable {log : Logger} {chance : Chance σ} {c : GenerateCommand} {w w' : Machine} {records : Dataset}

structure Generates (chance : Chance σ) (c : GenerateCommand) (w : Machine) (settings : Settings)
    (schema : Json) (records : Dataset) : Prop where
  load : (Settings.load c.config {} : ExceptT Settings.LoadError (StateM Machine) Settings).run w =
    (.ok settings, w)
  read : (readSchema c.schema : ExceptT ProgramError (StateM Machine) Json).run w = (.ok schema, w)
  run : ∃ run, settings.run schema c.count (chance.source c.seed) = .ok run ∧ run.outcome = .ok records

lemma keeps_output_recordsFor (log : Logger) (chance : Chance σ) (c : GenerateCommand) :
    Keeps Machine.output (recordsFor log chance c : ExceptT ProgramError (StateM Machine) Dataset) := by
  refine ((readOnly_load c.config {}).keeps.adapt ProgramError.settings).bind fun settings =>
    (readOnly_readSchema c.schema).keeps.bind fun schema => ?_
  cases settings.run schema c.count (chance.source c.seed) with
  | error e => exact .throw _
  | ok run =>
    refine .bind (log.output_of_emitAll · run.events) fun _ => ?_
    cases run.outcome with
    | error e => exact .throw _
    | ok records => exact .pure records

lemma generates_of_recordsFor
    (h : (recordsFor log chance c : ExceptT ProgramError (StateM Machine) Dataset).run w =
    (.ok records, w')) :
    ∃ settings schema, Generates chance c w settings schema records := by
  obtain ⟨settings, w₁, hload, h₁⟩ := run_bind_eq_ok_iff.1 h
  obtain ⟨schema, w₂, hschema, h₂⟩ := run_bind_eq_ok_iff.1 h₁
  have hload' := run_adapt_eq_ok_iff.1 hload
  obtain rfl : w₁ = w := (congrArg Prod.snd hload').symm.trans ((readOnly_load c.config {}).run_snd w)
  obtain rfl : w₂ = w₁ := (congrArg Prod.snd hschema).symm.trans ((readOnly_readSchema c.schema).run_snd w₁)
  cases hrun : settings.run schema c.count (chance.source c.seed) with
  | error e =>
    rw [hrun] at h₂
    cases h₂
  | ok run =>
    rw [hrun] at h₂
    obtain ⟨_, w₃, -, h₃⟩ := run_bind_eq_ok_iff.1 h₂
    cases ho : run.outcome with
    | error e =>
      rw [ho] at h₃
      cases h₃
    | ok l =>
      rw [ho] at h₃
      obtain ⟨rfl, -⟩ := run_pure_eq_ok_iff.1 h₃
      exact ⟨settings, schema, hload', hschema, run, hrun, ho⟩

variable {settings : Settings} {schema : Json}

lemma recordsFor_of_generates (log : Logger) (h : Generates chance c w settings schema records) :
    ∃ l, (recordsFor log chance c : ExceptT ProgramError (StateM Machine) Dataset).run w =
      (.ok records, ((log.emitAll l : StateM Machine Unit).run w).2) := by
  obtain ⟨hload, hschema, run, hrun, ho⟩ := h
  refine ⟨run.events, ?_⟩
  rw [recordsFor, run_bind_of_ok (run_adapt_eq_ok_iff.2 hload), run_bind_of_ok hschema]
  simp only [hrun]
  rw [run_bind_of_ok (run_lift _)]
  simp only [ho]
  rfl

lemma plain_of_generates (h : Generates chance c w settings schema records) :
    ∀ v ∈ records, v.Plain ∧ v.nesting ≤ schema.nesting ∧ v.nesting ≤ settings.maxDepth.toNat := by
  obtain ⟨run, hrun, ho⟩ := h.run
  rw [Settings.run] at hrun
  split at hrun
  · cases hrun
  · rename_i valid hvalid
    cases hrun
    obtain ⟨json, hjson, hwire⟩ := Request.nesting_of_validate hvalid
    cases hjson
    intro v hv
    obtain ⟨hplain, hdeep, hlimit⟩ := settings.engine.plain_of_run _ _ _ _ _ ho v hv
    exact ⟨hplain, Nat.le_trans hdeep hwire, hlimit⟩

/-- A key is printed when a dataset has been stored under it, and what is stored can be read unless a record
has more than 126 arrays and objects within each other: the array of the records is one more. -/
theorem get_of_generate {path : String} {result : Except ProgramError Unit} (hsink : c.sink = .store path)
    (hkey : Key.isValid chance.key) (hlog : ∀ p ∈ log.file, Store.documentName chance.key ∉ p)
    (h : (generate log chance c : ExceptT ProgramError (StateM Machine) Unit).run w = (result, w'))
    (hprinted : w'.output ≠ w.output) :
    result = .ok () ∧ w'.output = w.output ++ (chance.key ++ "\n") ∧
      ∃ settings schema records, Generates chance c w settings schema records ∧
        (∀ v ∈ records, v.nesting ≤ schema.nesting ∧ v.nesting ≤ settings.maxDepth.toNat) ∧
        ∀ l, (((Store.directory (.ofText path) : Store (StateM Disk)).get chance.key).run w'.disk).1 = .ok l ↔
          l = records ∧ ∀ v ∈ records, v.nesting ≤ 126 := by
  -- nothing is printed before the dataset is stored
  rw [generate_eq] at h
  have hquiet := keeps_output_recordsFor log chance c w
  cases hr : (recordsFor log chance c : ExceptT ProgramError (StateM Machine) Dataset).run w with
  | mk r w₁ =>
    rw [hr] at hquiet
    cases r with
    | error e =>
      rw [run_bind_of_error hr] at h
      cases h
      exact absurd hquiet hprinted
    | ok records =>
      rw [run_bind_of_ok hr, hsink, deliver_store_eq] at h
      have hquiet' := keeps_output_keep log chance.key records path w₁
      cases hk : (keep log chance.key records path : ExceptT ProgramError (StateM Machine) String).run w₁ with
      | mk k w₂ =>
        rw [hk] at hquiet'
        cases k with
        | error e =>
          rw [run_bind_of_error hk] at h
          cases h
          exact absurd (hquiet'.trans hquiet) hprinted
        | ok key =>
          rw [run_bind_of_ok hk] at h
          obtain ⟨rfl, hholds⟩ := holds_of_keep hlog hk
          cases h
          obtain ⟨settings, schema, hgen⟩ := generates_of_recordsFor hr
          have hplain := plain_of_generates hgen
          exact ⟨rfl, congrArg (· ++ _) (hquiet'.trans hquiet), settings, schema, records, hgen,
            fun v hv => (hplain v hv).2, fun l => hholds.get_eq_ok_iff hkey fun v hv => (hplain v hv).1⟩

end generating

section samples

def nestedObjects : Nat → Json
  | 0 => .obj []
  | n + 1 => .obj [("a", nestedObjects n)]

lemma nesting_nestedObjects (n : Nat) : (nestedObjects n).nesting = n + 1 := by
  induction n with
  | zero => rfl
  | succ n ih => rw [nestedObjects, Json.nesting, Json.nestingMembers, Json.nestingMembers, ih,
    Nat.max_zero, Nat.add_comm]

lemma plain_nestedObjects (n : Nat) : (nestedObjects n).Plain := by
  induction n with
  | zero => exact .obj .nil (by simp)
  | succ n ih => exact .obj (by simp [Entries.keys]) (by simpa using ih)

def machineFor (n : Nat) : Machine where
  disk := (Disk.empty.put ["s"] (.file (nestedObjects n).compact.toUTF8)).put ["c"]
    (.file "max_depth = 200".toUTF8)

def quietLog : Logger := ⟨.pretty, ⟨[]⟩, none⟩

def storeCommand : GenerateCommand := ⟨"s", 1, none, .store "d", some "c"⟩

def sampleChance : Chance WordCycle := ⟨fun _ => ⟨#[0], 0⟩, "k"⟩

def deepSettings : Settings := { maxDepth := 200 }

def storeRun (n : Nat) : Except ProgramError Unit × Machine :=
  (generate quietLog sampleChance storeCommand :
    ExceptT ProgramError (StateM Machine) Unit).run (machineFor n)

lemma load_machineFor (n : Nat) :
    (Settings.load (some "c") {} : ExceptT Settings.LoadError (StateM Machine) Settings).run (machineFor n) =
      (.ok deepSettings, machineFor n) := by
  have hread : (Call.read (.ofText "c")).run (machineFor n).disk =
      (.ok "max_depth = 200".toUTF8, (machineFor n).disk) := by rfl
  have htext := run_adapt_eq_ok_iff (g := Settings.LoadError.unreadable "c").2 (run_readText hread)
  have hlayer : Settings.Layer.ofText? "max_depth = 200" = some { maxDepth := some 200 } := by decide +kernel
  have hload :
      (Settings.Layer.load (some "c") : ExceptT Settings.LoadError (StateM Machine) Settings.Layer).run
      (machineFor n) = (.ok { maxDepth := some 200 }, machineFor n) := by
    rw [Settings.Layer.load, run_bind_of_ok htext]
    simp only [hlayer]
    rfl
  rw [Settings.load, run_bind_of_ok hload]
  rfl

lemma readSchema_machineFor {n : Nat} (hn : n ≤ 126) :
    (readSchema "s" : ExceptT ProgramError (StateM Machine) Json).run (machineFor n) =
      (.ok (nestedObjects n), machineFor n) := by
  have hread : (Call.read (.ofText "s")).run (machineFor n).disk =
      (.ok (nestedObjects n).compact.toUTF8, (machineFor n).disk) := by
    rfl
  exact run_readSchema hread
    (Json.parse_compact (plain_nestedObjects n) (nesting_nestedObjects n ▸ Nat.succ_le_succ hn))

lemma generates_machineFor {n : Nat} (hn : n ≤ 126)
    (h : (deepSettings.run (nestedObjects n) 1 (sampleChance.source none)).toOption.bind
      (·.outcome.toOption) =
      some [nestedObjects n]) :
    Generates sampleChance storeCommand (machineFor n) deepSettings (nestedObjects n) [nestedObjects n] := by
  cases hrun : deepSettings.run (nestedObjects n) 1 (sampleChance.source none) with
  | error e =>
    rw [hrun] at h
    cases h
  | ok run =>
    rw [hrun] at h
    cases ho : run.outcome with
    | error e =>
      change run.outcome.toOption = _ at h
      rw [ho] at h
      cases h
    | ok l =>
      change run.outcome.toOption = _ at h
      rw [ho] at h
      cases h
      exact ⟨load_machineFor n, readSchema_machineFor hn, run, hrun, ho⟩

lemma silent_emitAll (l : List Log.Event) (w : Machine) :
    ((quietLog.emitAll l : StateM Machine Unit).run w).2 = w := by
  induction l with
  | nil => rfl
  | cons e rest ih => exact ih

lemma storeRun_of_generates {n : Nat}
    (h : Generates sampleChance storeCommand (machineFor n) deepSettings (nestedObjects n)
      [nestedObjects n]) :
    (storeRun n).2.output = "k\n" ∧ Store.Holds (storeRun n).2.disk ["d"] "k" [nestedObjects n] := by
  obtain ⟨l, hrecords⟩ := recordsFor_of_generates quietLog h
  rw [silent_emitAll] at hrecords
  have hpath : Path.ofText "d" = ["d"] := by decide
  let d := (machineFor n).disk.put ["d"] .directory
  let w : Machine := { machineFor n with disk := d }
  let text := (Dataset.toJson [nestedObjects n]).pretty
  have hwalk : d.Walk [] ["d"] ["d"] := .into (by decide) rfl (.here rfl)
  have hdoc : d.find? (["d"] ++ [Store.documentName "k"]) = none := by rfl
  have htmp : d.find? (["d"] ++ [Store.documentName "k" ++ temporarySuffix]) = none := by rfl
  have hput : ((Store.directory ["d"] : Store (StateM Disk)).put "k" [nestedObjects n]).run d =
      (.ok "k", _) :=
    Store.run_put hwalk (by decide) (by rw [hdoc]; simp) (by rw [htmp]; simp)
  have hkeep : (keep quietLog "k" [nestedObjects n] "d" :
      ExceptT ProgramError (StateM Machine) String).run (machineFor n) =
      (.ok "k", { w with disk := d.replaced ["d"] (Store.documentName "k") text.toUTF8 }) := by
    have hopen : ((Store.openDirectory ["d"]).adapt .store :
        ExceptT ProgramError (StateM Machine) Unit).run (machineFor n) =
        (.ok (), w) := rfl
    have htell (e : Log.Event) (w : Machine) :
        (tell quietLog e : ExceptT ProgramError (StateM Machine) Unit).run w = (.ok (), w) := rfl
    have hstore := (OnDisk.put ["d"] "k" [nestedObjects n]) w
    rw [hput] at hstore
    rw [keep, hpath, run_bind_of_ok hopen, run_bind_of_ok (htell _ _),
      run_bind_of_ok (run_adapt_eq_ok_iff.2 hstore), run_bind_of_ok (htell _ _)]
    rfl
  obtain ⟨-, hholds⟩ := holds_of_keep (by simp [quietLog]) hkeep
  rw [hpath] at hholds
  have hdeliver : (deliver quietLog sampleChance.key [nestedObjects n] storeCommand.sink :
      ExceptT ProgramError (StateM Machine) Unit) =
        keep quietLog "k" [nestedObjects n] "d" >>= fun key => print (key ++ "\n") :=
    deliver_store_eq quietLog "k" [nestedObjects n] "d"
  rw [storeRun, generate_eq, run_bind_of_ok hrecords, hdeliver, run_bind_of_ok hkeep]
  exact ⟨rfl, hholds⟩

theorem get_of_generate_empty :
    (storeRun 0).2.output ≠ (machineFor 0).output ∧ (storeRun 0).1 = .ok () ∧
      (storeRun 0).2.output = (machineFor 0).output ++ (sampleChance.key ++ "\n") ∧
        ∃ settings schema records,
          Generates sampleChance storeCommand (machineFor 0) settings schema records ∧
          (∀ v ∈ records, v.nesting ≤ schema.nesting ∧ v.nesting ≤ settings.maxDepth.toNat) ∧
          ∀ l, (((Store.directory (.ofText "d") : Store (StateM Disk)).get sampleChance.key).run
            (storeRun 0).2.disk).1 = .ok l ↔
            l = records ∧ ∀ v ∈ records, v.nesting ≤ 126 := by
  have hprinted : (storeRun 0).2.output ≠ (machineFor 0).output := by
    rw [(storeRun_of_generates (generates_machineFor (Nat.zero_le _) (by decide +kernel))).1]
    decide
  have hrun : (generate quietLog sampleChance storeCommand :
      ExceptT ProgramError (StateM Machine) Unit).run (machineFor 0) =
      ((storeRun 0).1, (storeRun 0).2) := (Prod.eta (storeRun 0)).symm
  have hkey : Key.isValid sampleChance.key := by decide
  have hmain := get_of_generate rfl hkey (by simp [quietLog]) hrun hprinted
  exact ⟨hprinted, hmain⟩

theorem not_readable_of_generate_deep :
    (storeRun 126).2.output = "k\n" ∧
      ∀ l, (((Store.directory (.ofText "d") : Store (StateM Disk)).get "k").run
        (storeRun 126).2.disk).1 ≠ .ok l := by
  obtain ⟨houtput, hholds⟩ := storeRun_of_generates
    (generates_machineFor (Nat.le_refl 126) (by decide +kernel))
  refine ⟨houtput, fun l hl => ?_⟩
  have hplain : ∀ v ∈ [nestedObjects 126], v.Plain := List.forall_mem_singleton.2 (plain_nestedObjects 126)
  have hdeep := ((hholds.get_eq_ok_iff (by decide) hplain).1 hl).2 _ (List.mem_singleton.2 rfl)
  rw [nesting_nestedObjects] at hdeep
  exact absurd hdeep (by decide)

end samples

end Program

end Specimen
