import Specimen.Files.Access
import Specimen.Settings.Basic
import Specimen.Toml.Document

/-! A key that is no name of a setting is refused. -/

namespace Specimen.Settings

def names : List String := ["listen_addr", "data_dir", "storage", "max_count", "max_depth", "max_array_len",
  "max_values", "image_base_url", "generation_timeout_secs"]

def text? : Toml.Value → Option String
  | .text s => some s
  | .integer _ => none

def natural? : Toml.Value → Option UInt64
  | .integer (.ofNat n) => some (UInt64.ofNat n)
  | _ => none

def given? {α : Type} (d : Toml.Document) (key : String) (read : Toml.Value → Option α) : Option (Option α) :=
  match d.find? key with
  | none => some none
  | some v => (read v).map some

def Layer.ofDocument? (d : Toml.Document) : Option Layer := do
  guard ((Entries.keys d.entries).all names.contains)
  return {
    listenAddr := ← given? d "listen_addr" fun v => (text? v).bind Net.SocketAddress.ofText?
    dataDir := ← given? d "data_dir" text?
    storage := ← given? d "storage" fun v => (text? v).bind StorageKind.ofText?
    maxCount := ← given? d "max_count" natural?
    maxDepth := ← given? d "max_depth" natural?
    maxArrayLen := ← given? d "max_array_len" natural?
    maxValues := ← given? d "max_values" natural?
    imageBaseUrl := ← given? d "image_base_url" text?
    generationTimeoutSecs := ← given? d "generation_timeout_secs" natural?
  }

def Layer.ofText? (text : String) : Option Layer := (Toml.Document.ofText? text).bind ofDocument?

inductive LoadError where
  | unreadable (path : String) (fault : Files.Fault)
  | malformed (path : String)
  | invalid (fault : SettingsFault)
  deriving DecidableEq

variable {m : Type → Type} [Monad m] [Files.Access m]

def Layer.load (path : Option String) : ExceptT LoadError m Layer := do
  match path with
  | none => return {}
  | some path =>
    let content ← (Files.readText (.ofText path)).adapt (LoadError.unreadable path)
    match Layer.ofText? content with
    | some layer => return layer
    | none => throw (.malformed path)

def load (path : Option String) (upper : Layer) : ExceptT LoadError m Settings := do
  let file ← Layer.load path
  let s := upper.onto (file.onto {})
  match s.validate with
  | .ok () => return s
  | .error fault => throw (.invalid fault)

end Specimen.Settings
