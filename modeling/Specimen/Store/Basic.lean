import Specimen.Envelope
import Specimen.Files.Disk

namespace Specimen

/-- Faults come with a detail, which may be any text. -/
inductive StoreError where
  | notFound (key : String)
  | files (fault : Files.Fault) (detail : String)
  | json (fault : Json.Fault) (detail : String)
  deriving DecidableEq

namespace StoreError

abbrev ofFault (fault : Files.Fault) : StoreError := .files fault fault.text

abbrev ofJson (fault : Json.Fault) : StoreError := .json fault fault.text

def message : StoreError → String
  | .notFound key => s!"no dataset stored under key '{key}'"
  | .files _ detail => s!"io error: {detail}"
  | .json _ detail => s!"json error: {detail}"

def IsInternal (e : StoreError) : Prop := ∀ key, e ≠ .notFound key

end StoreError

structure Store (m : Type → Type) where
  put (key : String) (records : Dataset) : ExceptT StoreError m String
  get (key : String) : ExceptT StoreError m Dataset
  list : ExceptT StoreError m (List String)
  delete (key : String) : ExceptT StoreError m Unit

namespace Store

def lift {m n : Type → Type} (f : {α : Type} → m α → n α) (s : Store m) : Store n where
  put key records := ExceptT.mk (f (s.put key records).run)
  get key := ExceptT.mk (f (s.get key).run)
  list := ExceptT.mk (f s.list.run)
  delete key := ExceptT.mk (f (s.delete key).run)

def unavailable {m : Type → Type} [Monad m] (fault : Files.Fault) : Store m where
  put _ _ := throw (.ofFault fault)
  get _ := throw (.ofFault fault)
  list := throw (.ofFault fault)
  delete _ := throw (.ofFault fault)

end Store

end Specimen
