import Specimen.Files.Disk

namespace Specimen.Files

inductive Call : Type → Type where
  | makeDirectories (p : Path) : Call Unit
  | create (p : Path) : Call Unit
  | touch (p : Path) : Call Unit
  | append (p : Path) (content : ByteArray) : Call Unit
  | sync (p : Path) : Call Unit
  | rename (source target : Path) : Call Unit
  | remove (p : Path) : Call Unit
  | read (p : Path) : Call ByteArray
  | list (p : Path) : Call (List (String × Kind))

class Access (m : Type → Type) where
  call {α : Type} : Call α → m (Except Fault α)

def Disk.openFile (d : Disk) (p : Path) (content : ByteArray → ByteArray) : Except Fault Unit × Disk :=
  match d.resolve [] p with
  | .error f => (.error f, d)
  | .ok place =>
    match d.find? place with
    | some .directory => (.error .isADirectory, d)
    | some (.file old) => (.ok (), d.put place (.file (content old)))
    | none => (.ok (), d.put place (.file (content .empty)))

def Disk.locate (d : Disk) (p : Path) : Except Fault (Path × Entry) :=
  match d.resolve [] p with
  | .error f => .error f
  | .ok place =>
    match d.find? place with
    | none => .error .notFound
    | some e => .ok (place, e)

namespace Call

def run {α : Type} (c : Call α) (d : Disk) : Except Fault α × Disk :=
  match c with
  | .makeDirectories p => d.makeDirectories [] p
  | .create p => d.openFile p fun _ => .empty
  | .touch p => d.openFile p id
  | .append p content => d.openFile p (· ++ content)
  | .sync p => ((d.locate p).map fun _ => (), d)
  | .rename source target =>
    match d.locate source, d.resolve [] target with
    | .error f, _ | _, .error f => (.error f, d)
    | .ok (from_, e), .ok to_ =>
      match d.find? to_ with
      | some .directory => (.error .isADirectory, d)
      | _ => (.ok (), (d.remove from_).put to_ e)
  | .remove p =>
    match d.locate p with
    | .error f => (.error f, d)
    | .ok (_, .directory) => (.error .isADirectory, d)
    | .ok (place, .file _) => (.ok (), d.remove place)
  | .read p =>
    match d.locate p with
    | .error f => (.error f, d)
    | .ok (_, .directory) => (.error .isADirectory, d)
    | .ok (_, .file content) => (.ok content, d)
  | .list p =>
    match d.locate p with
    | .error f => (.error f, d)
    | .ok (_, .file _) => (.error .notADirectory, d)
    | .ok (place, .directory) => (.ok (d.children place), d)

end Call

instance : Access (StateM Disk) := ⟨fun c d => c.run d⟩

section

variable {m : Type → Type} [Access m]

def ask {α : Type} (c : Call α) : ExceptT Fault m α := ExceptT.mk (Access.call c)

def readText [Monad m] (p : Path) : ExceptT Fault m String := do
  match String.fromUTF8? (← ask (.read p)) with
  | some s => return s
  | none => throw .invalidData

def writeText [Monad m] (p : Path) (s : String) : ExceptT Fault m Unit := do
  ask (.create p)
  ask (.append p s.toUTF8)

end

end Specimen.Files
