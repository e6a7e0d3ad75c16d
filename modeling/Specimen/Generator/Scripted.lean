import Specimen.Generator.Basic
import Specimen.Random.Source

/-! Generators whose texts are known beforehand, with which an engine can be tried out. -/

namespace Specimen

structure Stage (σ : Type) where
  source : σ
  calls : Array Nat

namespace Stage

variable {σ : Type}

def start (source : σ) (slots : Nat) : Stage σ := ⟨source, Array.replicate slots 0⟩

instance [WordSource σ] : WordSource (Stage σ) where
  word32 s :=
    match WordSource.word32 s.source with
    | (x, t) => (x, { s with source := t })
  word64 s :=
    match WordSource.word64 s.source with
    | (x, t) => (x, { s with source := t })

def call (slot : Nat) : StateM (Stage σ) Nat := fun s =>
  (s.calls.getD slot 0 + 1, { s with calls := s.calls.modify slot (· + 1) })

end Stage

inductive Part where
  | constant (text : String)
  | word32
  | word64
  | callCount
  deriving DecidableEq

namespace Part

variable {σ : Type} [WordSource σ]

def text (tag : String) (calls : Nat) : Part → StateM (Stage σ) String
  | .constant text => pure text
  | .word32 => do
    let x ← WordSource.word32
    return s!"{tag}:{x}"
  | .word64 => do
    let x ← WordSource.word64
    return s!"{tag}:{x}"
  | .callCount => pure s!"{tag}#{calls}"

end Part

namespace Generator

def scripted {σ : Type} [WordSource σ] (slot : Nat) (tag : String) (part : Part) (cancelAt : Option Nat) :
    Generator (Stage σ) where
  tag := tag
  generate := do
    let calls ← Stage.call slot
    let text ← part.text tag calls
    return ⟨text, cancelAt == some calls⟩

end Generator

end Specimen
