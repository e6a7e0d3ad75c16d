import Specimen.Entries
import Specimen.Text.Span

/-! Disks: finite maps from paths to files and directories. -/

namespace Specimen.Files

inductive Fault where
  | notFound
  | notADirectory
  | isADirectory
  | alreadyExists
  | invalidFilename
  | invalidData
  | other
  deriving DecidableEq

namespace Fault

def name : Fault → String
  | .notFound => "NotFound"
  | .notADirectory => "NotADirectory"
  | .isADirectory => "IsADirectory"
  | .alreadyExists => "AlreadyExists"
  | .invalidFilename => "InvalidFilename"
  | .invalidData => "InvalidData"
  | .other => "Other"

def text : Fault → String
  | .notFound => "No such file or directory (os error 2)"
  | .notADirectory => "Not a directory (os error 20)"
  | .isADirectory => "Is a directory (os error 21)"
  | .alreadyExists => "File exists (os error 17)"
  | .invalidFilename => "File name too long (os error 36)"
  | .invalidData => "stream did not contain valid UTF-8"
  | .other => "other error"

end Fault

abbrev Path := List String

namespace Path

/-- A path that begins at the root has `/` as its first name, and one that ends in a slash `.` as its last. -/
def ofText (s : String) : Path :=
  let names := (Text.splitOn '/' s).filter (· ≠ "")
  (if s.toList.head? = some '/' then ["/"] else []) ++ names ++
    (if s.toList.getLast? = some '/' ∧ names ≠ [] then ["."] else [])

def text (p : Path) : String :=
  match p with
  | "/" :: names => "/" ++ "/".intercalate names
  | names => "/".intercalate names

end Path

inductive Entry where
  | file (content : ByteArray)
  | directory
  deriving Inhabited

inductive Kind where
  | file
  | directory
  deriving DecidableEq

def Entry.kind : Entry → Kind
  | .file _ => .file
  | .directory => .directory

structure Disk where
  entries : List (Path × Entry)
  nodup : (Entries.keys entries).Nodup

namespace Disk

def empty : Disk := ⟨[], .nil⟩

instance : Inhabited Disk := ⟨empty⟩

def find? (d : Disk) (p : Path) : Option Entry :=
  if p = [] then some .directory else Entries.find? p d.entries

def put (d : Disk) (p : Path) (e : Entry) : Disk := ⟨Entries.set p e d.entries, Entries.nodup_keys_set p e d.nodup⟩

def remove (d : Disk) (p : Path) : Disk := ⟨Entries.erase p d.entries, Entries.nodup_keys_erase p d.nodup⟩

def removeTree (d : Disk) (p : Path) : Disk where
  entries := d.entries.filter fun e => !p.isPrefixOf e.1
  nodup := by
    have h : (Entries.keys (d.entries.filter fun e => !p.isPrefixOf e.1)) =
        (Entries.keys d.entries).filter fun q => !p.isPrefixOf q := by
      simp [Entries.keys, List.filter_map, Function.comp_def]
    rw [h]
    exact d.nodup.filter _

def children (d : Disk) (p : Path) : List (String × Kind) :=
  d.entries.filterMap fun e =>
    match e.1.getLast? with
    | some name => if e.1.dropLast = p then some (name, e.2.kind) else none
    | none => none

theorem find?_put {d : Disk} {p q : Path} {e : Entry} (h : p ≠ []) :
    (d.put p e).find? q = if q = p then some e else d.find? q := by
  simp only [find?, put, Entries.find?_set]
  grind

theorem find?_remove {d : Disk} {p q : Path} (h : p ≠ []) :
    (d.remove p).find? q = if q = p then none else d.find? q := by
  simp only [find?, remove, Entries.find?_erase]
  grind

def maxName : Nat := 255

def resolve (d : Disk) (place : Path) : Path → Except Fault Path
  | [] => .ok place
  | name :: rest =>
    if name = "." then resolve d place rest
    else if name = ".." then resolve d place.dropLast rest
    else if maxName < name.utf8ByteSize then .error .invalidFilename
    else if rest = [] then .ok (place ++ [name])
    else
      match d.find? (place ++ [name]) with
      | none => .error .notFound
      | some (.file _) => .error .notADirectory
      | some .directory => resolve d (place ++ [name]) rest

def makeDirectories (d : Disk) (place : Path) : Path → Except Fault Unit × Disk
  | [] => (.ok (), d)
  | name :: rest =>
    if name = "." then makeDirectories d place rest
    else if name = ".." then makeDirectories d place.dropLast rest
    else if maxName < name.utf8ByteSize then (.error .invalidFilename, d)
    else
      match d.find? (place ++ [name]) with
      | none => makeDirectories (d.put (place ++ [name]) .directory) (place ++ [name]) rest
      | some .directory => makeDirectories d (place ++ [name]) rest
      | some (.file _) => (.error (if rest.all (· == ".") then .alreadyExists else .notADirectory), d)

end Disk

end Specimen.Files
