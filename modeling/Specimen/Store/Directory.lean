import Specimen.Files.Replace
import Specimen.Store.Basic
import Specimen.Store.Key

/-! The store that is a directory, with one indented JSON document for each dataset. Only files whose names are
those of valid keys belong to it. -/

namespace Specimen.Store

open Files

def documentSuffix : String := ".json"

def documentName (key : String) : String := key ++ documentSuffix

def keyOf? (name : String) : Option String :=
  let key := String.ofList (name.toList.take (name.length - documentSuffix.length))
  if name = documentName key ∧ Key.isValid key then some key else none

theorem keyOf?_eq_some_iff {name key : String} :
    keyOf? name = some key ↔ name = documentName key ∧ Key.isValid key := by
  have stem (key : String) :
      String.ofList ((documentName key).toList.take ((documentName key).length - documentSuffix.length)) = key := by
    have h : key.length = key.toList.length := rfl
    simp [documentName, h]
  simp only [keyOf?]
  constructor
  · intro h
    split at h
    · rename_i hc
      rw [Option.some.injEq] at h
      rw [← h]
      exact hc
    · contradiction
  · rintro ⟨rfl, hv⟩
    rw [stem, if_pos ⟨rfl, hv⟩]

variable {m : Type → Type} [Monad m] [Access m]

def askFiles {α : Type} (x : ExceptT Fault m α) : ExceptT StoreError m α := x.adapt .ofFault

def askDocument {α : Type} (key : String) (x : ExceptT Fault m α) : ExceptT StoreError m α :=
  x.adapt fun fault => if fault = .notFound then .notFound key else .ofFault fault

def readDocument (content : ByteArray) : Except Json.Fault Dataset :=
  match String.fromUTF8? content with
  | some text => Dataset.read text
  | none => .error .malformed

def openDirectory (directory : Path) : ExceptT StoreError m Unit := askFiles (ask (.makeDirectories directory))

def directory (directory : Path) : Store m where
  put key records := do
    askFiles (replace (directory ++ [documentName key]) records.toJson.pretty.toUTF8)
    return key
  get key := do
    if !Key.isValid key then
      throw (.notFound key)
    let content ← askDocument key (ask (.read (directory ++ [documentName key])))
    match readDocument content with
    | .ok records => return records
    | .error fault => throw (.ofJson fault)
  list := do
    let entries ← askFiles (ask (.list directory))
    let keys := entries.filterMap fun e => if e.2 = .file then keyOf? e.1 else none
    return keys.mergeSort fun a b => a ≤ b
  delete key := do
    if !Key.isValid key then
      throw (.notFound key)
    askDocument key (ask (.remove (directory ++ [documentName key])))

end Specimen.Store
