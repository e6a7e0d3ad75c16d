import Specimen.Files.Access

/-! Replacing the content of a file, so that those who read it find the old content or the whole new content. -/

namespace Specimen.Files

def temporarySuffix : String := ".tmp"

def Path.temporary (p : Path) : Path := p.dropLast ++ [p.getLastD "" ++ temporarySuffix]

variable {m : Type → Type} [Monad m] [Access m]

def renameOrRemove (source target : Path) : ExceptT Fault m Unit :=
  tryCatch (ask (.rename source target)) fun fault => do
    tryCatch (ask (.remove source)) fun _ => pure ()
    throw fault

def replace (p : Path) (content : ByteArray) : ExceptT Fault m Unit := do
  let directory := p.dropLast
  if directory ≠ [] then
    ask (.makeDirectories directory)
  ask (.create p.temporary)
  ask (.append p.temporary content)
  ask (.sync p.temporary)
  renameOrRemove p.temporary p
  if directory ≠ [] then
    ask (.sync directory)

end Specimen.Files
