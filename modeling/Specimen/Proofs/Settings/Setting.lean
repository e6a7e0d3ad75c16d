import Mathlib.Data.Option.Basic
import Specimen.CommandLine.Invocation
import Specimen.Settings.File

namespace Specimen

open CommandLine
open Settings (Layer)

inductive Setting : Type → Type
  | listenAddr : Setting Net.SocketAddress
  | dataDir : Setting String
  | storage : Setting StorageKind
  | maxCount : Setting UInt64
  | maxDepth : Setting UInt64
  | maxArrayLen : Setting UInt64
  | maxValues : Setting UInt64
  | imageBaseUrl : Setting String
  | generationTimeoutSecs : Setting UInt64

namespace Setting

variable {α : Type}

def key : Setting α → String
  | .listenAddr => "listen_addr"
  | .dataDir => "data_dir"
  | .storage => "storage"
  | .maxCount => "max_count"
  | .maxDepth => "max_depth"
  | .maxArrayLen => "max_array_len"
  | .maxValues => "max_values"
  | .imageBaseUrl => "image_base_url"
  | .generationTimeoutSecs => "generation_timeout_secs"

def read? : Setting α → Toml.Value → Option α
  | .listenAddr, v => (Settings.text? v).bind Net.SocketAddress.ofText?
  | .storage, v => (Settings.text? v).bind StorageKind.ofText?
  | .dataDir, v | .imageBaseUrl, v => Settings.text? v
  | .maxCount, v | .maxDepth, v | .maxArrayLen, v | .maxValues, v | .generationTimeoutSecs, v => Settings.natural? v

def given : Setting α → Layer → Option α
  | .listenAddr, l => l.listenAddr
  | .dataDir, l => l.dataDir
  | .storage, l => l.storage
  | .maxCount, l => l.maxCount
  | .maxDepth, l => l.maxDepth
  | .maxArrayLen, l => l.maxArrayLen
  | .maxValues, l => l.maxValues
  | .imageBaseUrl, l => l.imageBaseUrl
  | .generationTimeoutSecs, l => l.generationTimeoutSecs

def value : Setting α → Settings → α
  | .listenAddr, s => s.listenAddr
  | .dataDir, s => s.dataDir
  | .storage, s => s.storage
  | .maxCount, s => s.maxCount
  | .maxDepth, s => s.maxDepth
  | .maxArrayLen, s => s.maxArrayLen
  | .maxValues, s => s.maxValues
  | .imageBaseUrl, s => s.imageBaseUrl
  | .generationTimeoutSecs, s => s.generationTimeoutSecs

def flagName : Setting α → String
  | .listenAddr => "listen"
  | .dataDir => "data-dir"
  | .storage => "storage"
  | .maxCount => "max-count"
  | .maxDepth => "max-depth"
  | .maxArrayLen => "max-array-len"
  | .maxValues => "max-values"
  | .imageBaseUrl => "image-base-url"
  | .generationTimeoutSecs => "timeout-secs"

def ofWord : Setting α → String → Except ValueFault α
  | .listenAddr => readAddress
  | .dataDir => readPath
  | .storage => readChoice StorageKind.ofText?
  | .imageBaseUrl => readText
  | .maxCount | .maxDepth | .maxArrayLen | .maxValues | .generationTimeoutSecs => readNatural

def put : Setting α → α → Layer → Layer
  | .listenAddr, a, l => { l with listenAddr := some a }
  | .dataDir, a, l => { l with dataDir := some a }
  | .storage, a, l => { l with storage := some a }
  | .maxCount, a, l => { l with maxCount := some a }
  | .maxDepth, a, l => { l with maxDepth := some a }
  | .maxArrayLen, a, l => { l with maxArrayLen := some a }
  | .maxValues, a, l => { l with maxValues := some a }
  | .imageBaseUrl, a, l => { l with imageBaseUrl := some a }
  | .generationTimeoutSecs, a, l => { l with generationTimeoutSecs := some a }

variable (x : Setting α)

lemma value_onto (l : Layer) (s : Settings) : x.value (l.onto s) = (x.given l).getD (x.value s) := by
  cases x <;> rfl

lemma given_of_document {d : Toml.Document} {l : Layer} (h : Layer.ofDocument? d = some l) :
    Settings.given? d x.key x.read? = some (x.given l) := by
  simp only [Layer.ofDocument?, Option.bind_eq_bind, Option.bind_eq_some_iff, Option.pure_def] at h
  obtain ⟨-, -, a₁, h₁, a₂, h₂, a₃, h₃, a₄, h₄, a₅, h₅, a₆, h₆, a₇, h₇, a₈, h₈, a₉, h₉, hl⟩ := h
  cases hl
  cases x <;> assumption

lemma given_empty : x.given {} = none := by
  cases x <;> rfl

lemma given_put_self (a : α) (l : Layer) : x.given (x.put a l) = some a := by
  cases x <;> rfl

variable {x} {β : Type} {y : Setting β}

lemma eq_of_flagName (h : y.flagName = x.flagName) : β = α ∧ HEq y x := by
  cases x <;> cases y <;> first | exact ⟨rfl, HEq.rfl⟩ | exact absurd h (by decide)

lemma given_put_of_ne (h : y.flagName ≠ x.flagName) (a : α) (l : Layer) :
    y.given (x.put a l) = y.given l := by
  cases x <;> cases y <;> first | rfl | exact absurd rfl h

end Setting

namespace Settings

lemma ext_value {s t : Settings} (h : ∀ (α : Type) (x : Setting α), x.value s = x.value t) : s = t := by
  cases s
  cases t
  rw [Settings.mk.injEq]
  exact ⟨h _ .listenAddr, h _ .dataDir, h _ .storage, h _ .maxCount, h _ .maxDepth, h _ .maxArrayLen, h _ .maxValues,
    h _ .imageBaseUrl, h _ .generationTimeoutSecs⟩

namespace Layer

lemma ext_given {l k : Layer} (h : ∀ (α : Type) (x : Setting α), x.given l = x.given k) : l = k := by
  cases l
  cases k
  rw [Layer.mk.injEq]
  exact ⟨h _ .listenAddr, h _ .dataDir, h _ .storage, h _ .maxCount, h _ .maxDepth, h _ .maxArrayLen, h _ .maxValues,
    h _ .imageBaseUrl, h _ .generationTimeoutSecs⟩

/-- Each setting that the layer gives is given by one of the two, and the other does not give it. -/
def Splits (l a b : Layer) : Prop :=
  ∀ (α : Type) (x : Setting α),
    (x.given a = x.given l ∧ x.given b = none) ∨ (x.given a = none ∧ x.given b = x.given l)

lemma Splits.symm {l a b : Layer} (h : l.Splits a b) : l.Splits b a :=
  fun α x => (h α x).symm.imp And.symm And.symm

lemma Splits.onto_onto_eq {l a b : Layer} (h : l.Splits a b) (s : Settings) : a.onto (b.onto s) = l.onto s := by
  apply ext_value
  intro α x
  rw [Setting.value_onto, Setting.value_onto, Setting.value_onto]
  rcases h α x with ⟨ha, hb⟩ | ⟨ha, hb⟩
  · rw [ha, hb, Option.getD_none]
  · rw [ha, hb, Option.getD_none]

lemma onto_self (l : Layer) (s : Settings) : l.onto (l.onto s) = l.onto s := by
  apply ext_value
  intro α x
  simp only [Setting.value_onto]
  cases x.given l <;> rfl

end Layer

end Settings

end Specimen
