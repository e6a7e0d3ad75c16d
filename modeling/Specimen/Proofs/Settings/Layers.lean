import Specimen.Proofs.Program.Readable
import Specimen.Proofs.Settings.Flags
import Specimen.Proofs.Settings.Validity

namespace Specimen

open Files CommandLine
open Settings (Layer)

namespace Setting

variable {α : Type} (x : Setting α)

inductive Takes (flags : Layer) (d : Toml.Document) : α → Prop
  | flag {a} : x.given flags = some a → Takes flags d a
  | file {v a} : x.given flags = none → d.find? x.key = some v → x.read? v = some a → Takes flags d a
  | default : x.given flags = none → d.find? x.key = none → Takes flags d (x.value {})

variable {x}

lemma Takes.unique {flags flags' : Layer} {d d' : Toml.Document} {a a' : α} (h : x.Takes flags d a)
    (h' : x.Takes flags' d' a') (hflag : x.given flags = x.given flags') (hkey : d.find? x.key = d'.find? x.key) :
    a = a' := by
  cases h <;> cases h' <;> simp_all

lemma takes_onto {flags file : Layer} {d : Toml.Document} (h : Layer.ofDocument? d = some file) :
    x.Takes flags d (x.value (flags.onto (file.onto {}))) := by
  have hfile := x.given_of_document h
  rw [value_onto, value_onto]
  cases hflag : x.given flags with
  | some a => exact .flag hflag
  | none =>
    rw [Settings.given?] at hfile
    cases hkey : d.find? x.key with
    | none =>
      rw [hkey] at hfile
      rw [← Option.some.inj hfile]
      exact .default hflag hkey
    | some v =>
      rw [hkey] at hfile
      obtain ⟨a, hread, ha⟩ := Option.map_eq_some_iff.1 hfile
      rw [← ha]
      exact .file hflag hkey hread

end Setting

inductive Configures (w : Machine) : Option String → Toml.Document → Prop
  | nothing : Configures w none ⟨[], List.nodup_nil⟩
  | file {path text d} : (Call.read (.ofText path)).run w.disk = (.ok text.toUTF8, w.disk) →
      Toml.Document.ofText? text = some d → Configures w (some path) d

namespace Settings

variable {w : Machine} {config : Option String} {d : Toml.Document} {file : Layer}

lemma run_load_layer (hd : Configures w config d) (hfile : Layer.ofDocument? d = some file) :
    (Layer.load config : ExceptT LoadError (StateM Machine) Layer).run w = (.ok file, w) := by
  cases hd with
  | nothing =>
    cases hfile
    rfl
  | file hread htext =>
    have hlayer : Layer.ofText? _ = some file := (congrArg (Option.bind · Layer.ofDocument?) htext).trans hfile
    rw [Layer.load, run_bind_of_ok (run_adapt_eq_ok_iff.2 (run_readText hread))]
    simp only [hlayer]
    rfl

lemma load_cases (hd : Configures w config d) (hfile : Layer.ofDocument? d = some file) (flags : Layer) :
    ((flags.onto (file.onto {})).validate = .ok () ∧
      (load config flags : ExceptT LoadError (StateM Machine) Settings).run w = (.ok (flags.onto (file.onto {})), w)) ∨
    ∃ f, (flags.onto (file.onto {})).validate = .error f ∧
      (load config flags : ExceptT LoadError (StateM Machine) Settings).run w = (.error (.invalid f), w) := by
  rw [load, run_bind_of_ok (run_load_layer hd hfile)]
  dsimp only
  cases hvalid : (flags.onto (file.onto {})).validate with
  | ok _ => exact .inl ⟨rfl, rfl⟩
  | error f => exact .inr ⟨f, rfl, rfl⟩

end Settings

namespace Program

variable {σ : Type} [WordSource σ]

abbrev start (σ : Type) [WordSource σ] (log : Logger) (config : Option String) (flags : Layer) (w : Machine) :
    Except ProgramError (Serving σ (StateM Machine)) × Machine :=
  (serve log config flags : ExceptT ProgramError (StateM Machine) (Serving σ (StateM Machine))).run w

lemma leads_openStore (log : Logger) (s : Settings) :
    Leads (fun _ => True) (openStore log s : ExceptT ProgramError (StateM Machine) (Store (StateT Store.Datasets _)))
      (fun _ _ => True) (fun e _ => ∃ fault, e = .store fault) := by
  rw [openStore]
  cases s.storage with
  | file =>
    have hopen : Leads (fun _ => True)
        ((Store.openDirectory (.ofText s.dataDir) : ExceptT StoreError (StateM Machine) Unit).adapt .store)
        (fun _ _ => True) (fun e _ => ∃ fault, e = ProgramError.store fault) := by
      refine Leads.adapt (E := fun _ _ => True) ⟨fun _ _ _ _ _ => trivial, fun _ _ _ _ _ => trivial⟩ ?_
      intro fault _ _
      exact ⟨fault, rfl⟩
    apply hopen.bind
    intro _
    have htell : Leads (fun _ => True) (tell log Log.storeOpened : ExceptT ProgramError (StateM Machine) Unit)
        (fun _ _ => True) (fun e _ => ∃ fault, e = ProgramError.store fault) :=
      ⟨fun _ _ _ _ _ => trivial, fun _ _ _ _ h => by cases h⟩
    apply htell.bind
    intro _
    exact .pure fun _ _ => trivial
  | memory => exact .pure fun _ _ => trivial

variable {log : Logger} {config : Option String} {flags : Layer} {w w' : Machine} {d : Toml.Document} {file : Layer}

section

variable {s : Settings}
  (hload : (Settings.load config flags : ExceptT Settings.LoadError (StateM Machine) Settings).run w = (.ok s, w))

include hload

lemma start_ne_settings {e : Settings.LoadError} : start σ log config flags w ≠ (.error (.settings e), w') := by
  intro h
  rw [start, serve, run_bind_of_ok (run_adapt_eq_ok_iff.2 hload)] at h
  -- with the settings at hand only the store can fail
  have hserving (store : Store (StateT Store.Datasets (StateM Machine))) : Leads (fun _ => True)
      (do
        tell log Log.serving
        return ⟨s.listenAddr, s.engine, store, s.config⟩ :
          ExceptT ProgramError (StateM Machine) (Serving σ (StateM Machine)))
      (fun _ _ => True) (fun e _ => ∃ fault, e = .store fault) :=
    ⟨fun _ _ _ _ _ => trivial, fun _ _ _ _ h => by cases h⟩
  obtain ⟨fault, hfault⟩ := ((leads_openStore log s).bind hserving).error w _ _ trivial h
  cases hfault

lemma serving_of_load {serving : Serving σ (StateM Machine)} (h : start σ log config flags w = (.ok serving, w')) :
    serving.address = s.listenAddr ∧ serving.service.engine = s.engine ∧ serving.service.config = s.config := by
  rw [start, serve, run_bind_of_ok (run_adapt_eq_ok_iff.2 hload)] at h
  obtain ⟨store, w₁, -, h⟩ := run_bind_eq_ok_iff.1 h
  obtain ⟨_, w₂, -, h⟩ := run_bind_eq_ok_iff.1 h
  obtain ⟨rfl, -⟩ := run_pure_eq_ok_iff.1 h
  exact ⟨rfl, rfl, rfl⟩

end

lemma start_of_fault {e : Settings.LoadError}
    (h : (Settings.load config flags : ExceptT Settings.LoadError (StateM Machine) Settings).run w = (.error e, w)) :
    start σ log config flags w = (.error (.settings e), w) := by
  have hadapt : ((Settings.load config flags : ExceptT Settings.LoadError (StateM Machine) Settings).adapt
      ProgramError.settings).run w = (.error (.settings e), w) := by
    rw [run_adapt, h]
    rfl
  rw [start, serve, run_bind_of_error hadapt]

section

variable (hd : Configures w config d) (hfile : Layer.ofDocument? d = some file)

include hd hfile

lemma start_invalid_iff {f : SettingsFault} : start σ log config flags w = (.error (.settings (.invalid f)), w') ↔
    (flags.onto (file.onto {})).FirstFault f ∧ w' = w := by
  rw [← Settings.validate_eq_error_iff]
  rcases Settings.load_cases hd hfile flags with ⟨hvalid, hload⟩ | ⟨g, hinvalid, hload⟩
  · rw [hvalid]
    exact iff_of_false (start_ne_settings hload) fun h => by cases h.1
  · rw [start_of_fault hload, hinvalid]
    simp [eq_comm]

lemma start_settings_iff : (∃ e w', start σ log config flags w = (.error (.settings e), w')) ↔
    ∃ f, (flags.onto (file.onto {})).Faulty f := by
  rcases Settings.load_cases hd hfile flags with ⟨hvalid, hload⟩ | ⟨f, hinvalid, hload⟩
  · refine iff_of_false ?_ ?_
    · rintro ⟨e, w', h⟩
      exact start_ne_settings hload h
    · rintro ⟨f, hf⟩
      exact Settings.validate_eq_ok_iff.1 hvalid f hf
  · obtain ⟨_, _, -, hf, -⟩ := Settings.validate_eq_error_iff.1 hinvalid
    exact iff_of_true ⟨_, w, start_of_fault hload⟩ ⟨f, hf⟩

lemma serving_of_start {serving : Serving σ (StateM Machine)} (h : start σ log config flags w = (.ok serving, w')) :
    serving.address = (flags.onto (file.onto {})).listenAddr ∧
      serving.service.engine = (flags.onto (file.onto {})).engine ∧
      serving.service.config = (flags.onto (file.onto {})).config := by
  rcases Settings.load_cases hd hfile flags with ⟨-, hload⟩ | ⟨f, -, hload⟩
  · exact serving_of_load hload h
  · cases (start_of_fault hload).symm.trans h

end

example : ({} : Settings) =
    ⟨.v4 ⟨127, 0, 0, 1⟩ 3000, "data", .file, 100000, 64, 10000, 10000000, "https://picsum.photos", 30⟩ := rfl

def zeroMachine : Machine := { disk := Disk.empty.put ["c"] (.file "max_count = 0".toUTF8) }

def zeroDocument : Toml.Document := ⟨[("max_count", .integer 0)], by decide⟩

lemma configures_zeroMachine : Configures zeroMachine (some "c") zeroDocument := by
  have hread : (Call.read (.ofText "c")).run zeroMachine.disk = (.ok "max_count = 0".toUTF8, zeroMachine.disk) := by
    rfl
  have hentries : (Toml.Document.ofText? "max_count = 0").map Toml.Document.entries = some zeroDocument.entries := by
    decide +kernel
  obtain ⟨d, htext, hd⟩ := Option.map_eq_some_iff.1 hentries
  obtain rfl : d = zeroDocument := by
    cases d
    cases hd
    rfl
  exact .file hread htext

end Program

end Specimen
