import Specimen.Program.Run
import Specimen.Random.ChaCha

/-! Nothing is decided here but how calls are made to the system. -/

namespace Specimen

def Files.Fault.ofError : IO.Error → Files.Fault
  | .noFileOrDirectory .. => .notFound
  | .alreadyExists .. => .alreadyExists
  | .inappropriateType .. => .notADirectory
  | .illegalOperation .. => .isADirectory
  | _ => .other

def attempt {α : Type} (x : IO α) : IO (Except Files.Fault α) := do
  try
    return .ok (← x)
  catch e =>
    return .error (.ofError e)

def Files.Path.forSystem (p : Files.Path) : String := if p = [] then "." else p.text

/-- What is written to a handle reaches the disk when the handle is closed. -/
instance : Files.Access IO where
  call
    | .makeDirectories p => attempt (IO.FS.createDirAll p.forSystem)
    | .create p => attempt (IO.FS.withFile p.forSystem .write fun _ => pure ())
    | .touch p => attempt (IO.FS.withFile p.forSystem .append fun _ => pure ())
    | .append p content => attempt (IO.FS.withFile p.forSystem .append fun h => h.write content)
    | .sync _ => pure (.ok ())
    | .rename source target => attempt (IO.FS.rename source.forSystem target.forSystem)
    | .remove p => attempt (IO.FS.removeFile p.forSystem)
    | .read p => attempt (IO.FS.readBinFile p.forSystem)
    | .list _ => pure (.error .other)

instance : Console IO where
  print s := IO.print s
  report s := IO.eprint s

def randomWord : IO UInt64 := do
  return (← IO.getRandomBytes 8).foldl (fun w b => w * 256 + b.toUInt64) 0

def chance : IO (Program.Chance ChaCha.Stream) := do
  let seed ← randomWord
  let key := Key.ofWords (← randomWord) (← randomWord)
  return ⟨fun given => .ofSeed (given.getD seed), key⟩

def filterVariable : String := "RUST_LOG"

def obey (args : List String) : IO UInt32 := do
  match CommandLine.Invocation.ofArguments args with
  | .error e =>
    if e.isRequest then Console.print e.message else Console.report e.message
    return e.exitCode
  | .ok i =>
    let filter := (← IO.getEnv filterVariable).getD "info"
    match ← (Program.run i filter (← chance)).run with
    | .ok none => return 0
    | .ok (some serving) =>
      Console.report s!"no listener for {serving.address.text}\n"
      return 1
    | .error e =>
      Console.report s!"Error: {e.message}\n"
      return 1

end Specimen

def main (args : List String) : IO UInt32 := Specimen.obey args
