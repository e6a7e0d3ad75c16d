import Specimen.ApiSchemas
import Specimen.Generator.BuiltIn
import Specimen.Program.Logger
import Specimen.Settings.File
import Specimen.Store.Directory
import Specimen.Store.Memory

/-! A failing command says why, and only the command that makes a dataset prints or writes it, once it is complete. -/

namespace Specimen

open CommandLine

inductive ProgramError where
  | settings (e : Settings.LoadError)
  | logging (fault : Files.Fault)
  | read (path : String) (fault : Files.Fault)
  | json (fault : Json.Fault)
  | request (e : RequestError)
  | generation (e : GenerationError)
  | store (e : StoreError)
  | output (fault : Files.Fault)
  deriving DecidableEq

namespace ProgramError

def message : ProgramError → String
  | .settings (.unreadable path fault) => s!"settings error: failed to read {path}: {fault.text}"
  | .settings (.malformed path) => s!"settings error: failed to parse {path}"
  | .settings (.invalid fault) => s!"settings error: {fault.message}"
  | .logging fault => s!"logging error: failed to open log file: {fault.text}"
  | .read path fault => s!"failed to read {path}: {fault.text}"
  | .json fault => s!"json error: {fault.text}"
  | .request e => s!"invalid request: {e.message}"
  | .generation e => s!"generation error: {e.message}"
  | .store e => s!"store error: {e.message}"
  | .output fault => s!"io error: {fault.text}"

end ProgramError

structure Program.Chance (σ : Type) where
  source : Option UInt64 → σ
  key : String

namespace Settings

variable {σ : Type} [WordSource σ] (s : Settings)

def engine : Engine σ := ⟨s.options, .builtIn⟩

def run (schema : Json) (count : UInt64) (source : σ) : Except RequestError (Run σ) :=
  match (Request.ofCount schema count).validate s.maxCount with
  | .error e => .error e
  | .ok valid => .ok (s.engine.run valid.schema valid.count none "" source)

end Settings

structure Serving (σ : Type) (m : Type → Type) where
  address : Net.SocketAddress
  service : Http.Service σ (StateT Store.Datasets m)

namespace Program

variable {σ : Type} {m : Type → Type} [WordSource σ] [Monad m] [Files.Access m] [Console m]

def tell (log : Logger) (e : Log.Event) : ExceptT ProgramError m Unit := ExceptT.lift (log.emit e)

def print (s : String) : ExceptT ProgramError m Unit := ExceptT.lift (Console.print s)

def readSchema (path : String) : ExceptT ProgramError m Json := do
  let text ← (Files.readText (.ofText path)).adapt (ProgramError.read path)
  match Json.parse text with
  | .ok v => return v
  | .error fault => throw (.json fault)

def deliver (log : Logger) (key : String) (records : Dataset) : Sink → ExceptT ProgramError m Unit
  | .output => print (records.toJson.pretty ++ "\n")
  | .file path => do
    (Files.writeText (.ofText path) records.toJson.pretty).adapt .output
    tell log Log.datasetWritten
  | .store path => do
    (Store.openDirectory (.ofText path)).adapt .store
    tell log Log.storeOpened
    let key ← ((Store.directory (.ofText path)).put key records).adapt .store
    tell log Log.datasetStored
    print (key ++ "\n")

def generate (log : Logger) (chance : Chance σ) (c : GenerateCommand) : ExceptT ProgramError m Unit := do
  let settings ← (Settings.load c.config {}).adapt .settings
  let schema ← readSchema c.schema
  match settings.run schema c.count (chance.source c.seed) with
  | .error e => throw (.request e)
  | .ok run =>
    ExceptT.lift (log.emitAll run.events)
    match run.outcome with
    | .error e => throw (.generation e)
    | .ok records => deliver log chance.key records c.sink

def openStore (log : Logger) (s : Settings) : ExceptT ProgramError m (Store (StateT Store.Datasets m)) := do
  match s.storage with
  | .file =>
    (Store.openDirectory (.ofText s.dataDir)).adapt .store
    tell log Log.storeOpened
    return (Store.directory (.ofText s.dataDir)).lift StateT.lift
  | .memory => return Store.memory.lift fun x d => pure (x d)

def serve (log : Logger) (config : Option String) (layer : Settings.Layer) :
    ExceptT ProgramError m (Serving σ m) := do
  let settings ← (Settings.load config layer).adapt .settings
  let store ← openStore log settings
  tell log Log.serving
  return ⟨settings.listenAddr, settings.engine, store, settings.config⟩

def printTags : ExceptT ProgramError m Unit :=
  print (String.join ((Registry.builtIn : Registry σ).tags.map (· ++ "\n")))

def printSchemas : ExceptT ProgramError m Unit := print (ApiSchemas.all.pretty ++ "\n")

def openLog (i : Invocation) (filter : String) : ExceptT ProgramError m Logger := do
  let file := i.logFile.map Files.Path.ofText
  match file with
  | some path => (Files.ask (.touch path)).adapt .logging
  | none => pure ()
  return ⟨i.logFormat, .ofText filter, file⟩

def run (i : Invocation) (filter : String) (chance : Chance σ) :
    ExceptT ProgramError m (Option (Serving σ m)) := do
  let log ← openLog i filter
  match i.command with
  | .serve config layer => return some (← serve log config layer)
  | .generate c =>
    generate log chance c
    return none
  | .tags =>
    printTags (σ := σ)
    return none
  | .schemas =>
    printSchemas
    return none

end Program

end Specimen
