import Specimen.Engine.Options
import Specimen.Http.Api
import Specimen.Net.SocketAddress
import Specimen.Text.Blank

/-! A layer gives some of the settings, and layers lie over one another with the defaults at the bottom. -/

namespace Specimen

inductive StorageKind where
  | file
  | memory
  deriving DecidableEq

namespace StorageKind

def text : StorageKind → String
  | .file => "file"
  | .memory => "memory"

def ofText? : String → Option StorageKind
  | "file" => some .file
  | "memory" => some .memory
  | _ => none

end StorageKind

structure Settings where
  listenAddr : Net.SocketAddress := .v4 ⟨127, 0, 0, 1⟩ 3000
  dataDir : String := "data"
  storage : StorageKind := .file
  maxCount : UInt64 := ({} : Http.Config).maxCount
  maxDepth : UInt64 := ({} : Options).maxDepth
  maxArrayLen : UInt64 := ({} : Options).maxArrayLen
  maxValues : UInt64 := ({} : Options).maxValues
  imageBaseUrl : String := ({} : Options).imageBaseUrl
  generationTimeoutSecs : UInt64 := 30
  deriving DecidableEq

inductive SettingsFault where
  | notPositive (setting : String)
  | blankImageBase
  deriving DecidableEq

namespace SettingsFault

def message : SettingsFault → String
  | .notPositive setting => s!"invalid setting: {setting} must be positive"
  | .blankImageBase => "invalid setting: image_base_url must not be empty"

end SettingsFault

namespace Settings

variable (s : Settings)

def toJson : Json :=
  .obj [("listen_addr", .str s.listenAddr.text), ("data_dir", .str s.dataDir), ("storage", .str s.storage.text),
    ("max_count", .nat s.maxCount), ("max_depth", .nat s.maxDepth), ("max_array_len", .nat s.maxArrayLen),
    ("max_values", .nat s.maxValues), ("image_base_url", .str s.imageBaseUrl),
    ("generation_timeout_secs", .nat s.generationTimeoutSecs)]

def limits : List (String × UInt64) :=
  [("max_count", s.maxCount), ("max_depth", s.maxDepth), ("max_array_len", s.maxArrayLen),
    ("max_values", s.maxValues), ("generation_timeout_secs", s.generationTimeoutSecs)]

def validate : Except SettingsFault Unit :=
  match s.limits.find? fun l => l.2 = 0 with
  | some l => .error (.notPositive l.1)
  | none => if s.imageBaseUrl.toList.all Text.isBlank then .error .blankImageBase else .ok ()

def options : Options := ⟨s.maxDepth, s.maxArrayLen, s.maxValues, s.imageBaseUrl⟩

def config : Http.Config := ⟨s.maxCount, s.generationTimeoutSecs.toNat * 1000⟩

structure Layer where
  listenAddr : Option Net.SocketAddress := none
  dataDir : Option String := none
  storage : Option StorageKind := none
  maxCount : Option UInt64 := none
  maxDepth : Option UInt64 := none
  maxArrayLen : Option UInt64 := none
  maxValues : Option UInt64 := none
  imageBaseUrl : Option String := none
  generationTimeoutSecs : Option UInt64 := none
  deriving DecidableEq

namespace Layer

def onto (l : Layer) (s : Settings) : Settings where
  listenAddr := l.listenAddr.getD s.listenAddr
  dataDir := l.dataDir.getD s.dataDir
  storage := l.storage.getD s.storage
  maxCount := l.maxCount.getD s.maxCount
  maxDepth := l.maxDepth.getD s.maxDepth
  maxArrayLen := l.maxArrayLen.getD s.maxArrayLen
  maxValues := l.maxValues.getD s.maxValues
  imageBaseUrl := l.imageBaseUrl.getD s.imageBaseUrl
  generationTimeoutSecs := l.generationTimeoutSecs.getD s.generationTimeoutSecs

end Layer

end Settings

end Specimen
