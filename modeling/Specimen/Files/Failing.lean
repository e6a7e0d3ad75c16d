import Specimen.Files.Access

/-! Disks whose calls may fail. A call that fails may have done a part of its work. -/

namespace Specimen.Files

structure Failure where
  fault : Fault
  done : Nat
  deriving DecidableEq

structure FailingDisk where
  disk : Disk
  /-- What becomes of the calls, the first of which has the number zero. -/
  failure? : Nat → Option Failure
  calls : Nat

namespace Call

def interrupted {α : Type} (c : Call α) (done : Nat) (d : Disk) : Disk :=
  match c with
  | .makeDirectories p => (d.makeDirectories [] (p.take done)).2
  | .append p content => (d.openFile p (· ++ content.extract 0 done)).2
  | _ => d

end Call

namespace FailingDisk

def stopping (disk : Disk) (number : Nat) (failure : Failure) : FailingDisk where
  disk := disk
  failure? n := if n < number then none else if n = number then some failure else some ⟨failure.fault, 0⟩
  calls := 0

def failingOnce (disk : Disk) (number : Nat) (failure : Failure) : FailingDisk where
  disk := disk
  failure? n := if n = number then some failure else none
  calls := 0

instance : Access (StateM FailingDisk) where
  call c := fun w =>
    match w.failure? w.calls with
    | some failure =>
      (.error failure.fault, { w with disk := c.interrupted failure.done w.disk, calls := w.calls + 1 })
    | none =>
      match c.run w.disk with
      | (answer, disk) => (answer, { w with disk, calls := w.calls + 1 })

end FailingDisk

end Specimen.Files
