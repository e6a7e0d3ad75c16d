import Specimen.CommandLine.Invocation
import Specimen.Engine.Run
import Specimen.Log.Filter
import Specimen.Program.Machine

namespace Specimen

open CommandLine

structure Logger where
  format : LogFormat
  filter : Log.Filter
  file : Option Files.Path

namespace Logger

def line (format : LogFormat) (e : Log.Event) : String :=
  match format with
  | .pretty => s!"{e.level.name} {e.target}: {e.message}\n"
  | .json =>
    (Json.obj [("level", .str e.level.name), ("target", .str e.target),
      ("fields", .obj [("message", .str e.message)])]).compact ++ "\n"

variable {m : Type → Type} [Monad m] [Files.Access m] [Console m] (l : Logger)

def emit (e : Log.Event) : m Unit := do
  if l.filter.admits e then
    match l.file with
    | some path => discard (Files.Access.call (m := m) (.append path (line l.format e).toUTF8))
    | none => Console.report (line l.format e)

def emitAll : List Log.Event → m Unit
  | [] => pure ()
  | e :: rest => do
    l.emit e
    emitAll rest

end Logger

namespace Log

def storeOpened : Event := ⟨.info, "fauxforge_store::file", "file store opened"⟩

def datasetStored : Event := ⟨.info, "fauxforge_store::file", "dataset stored"⟩

def datasetWritten : Event := ⟨.info, "fauxforge", "dataset written"⟩

def serving : Event := ⟨.info, "fauxforge", "starting fauxforge"⟩

def ofEngine (level : Level) (message : String) : Event := ⟨level, "fauxforge_generate::engine", message⟩

end Log

def Run.events {σ : Type} (r : Run σ) : List Log.Event :=
  let unknown := r.report.fallbackTags.keys.map fun _ => Log.ofEngine .debug "unknown scalar tag, using fallback"
  let final := match r.outcome with
    | .ok _ => Log.ofEngine .info "generation completed"
    | .error _ => Log.ofEngine .warn "generation failed"
  Log.ofEngine .info "generation started" :: unknown ++ [final]

end Specimen
