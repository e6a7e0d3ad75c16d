import Specimen.CommandLine.Flag
import Specimen.Settings.Basic

/-! The flags for the log may stand before and behind the command; those behind it count. -/

namespace Specimen.CommandLine

inductive LogFormat where
  | pretty
  | json
  deriving DecidableEq

namespace LogFormat

def ofText? : String → Option LogFormat
  | "pretty" => some .pretty
  | "json" => some .json
  | _ => none

end LogFormat

inductive Sink where
  | output
  | file (path : String)
  | store (directory : String)
  deriving DecidableEq

structure GenerateCommand where
  schema : String
  count : UInt64
  seed : Option UInt64
  sink : Sink
  config : Option String
  deriving DecidableEq

inductive Command where
  | serve (config : Option String) (layer : Settings.Layer)
  | generate (command : GenerateCommand)
  | tags
  | schemas
  deriving DecidableEq

structure Invocation where
  logFormat : LogFormat
  logFile : Option String
  command : Command
  deriving DecidableEq

def readText (s : String) : Except ValueFault String := .ok s

def readPath (s : String) : Except ValueFault String := if s = "" then .error .notAllowed else .ok s

def readNatural (s : String) : Except ValueFault UInt64 :=
  match Text.word? s.toList with
  | some n => .ok n
  | none => .error .unreadable

def readAddress (s : String) : Except ValueFault Net.SocketAddress :=
  match Net.SocketAddress.ofText? s with
  | some a => .ok a
  | none => .error .unreadable

def readChoice {α : Type} (ofText? : String → Option α) (s : String) : Except ValueFault α :=
  match ofText? s with
  | some a => .ok a
  | none => .error .notAllowed

structure LogFlags where
  format : Option LogFormat := none
  file : Option String := none

namespace LogFlags

def flags : List (Flag LogFlags) :=
  [.of "log-format" (readChoice LogFormat.ofText?) fun v f => { f with format := some v },
    .of "log-file" readPath fun v f => { f with file := some v }]

end LogFlags

structure ServeFlags where
  config : Option String := none
  layer : Settings.Layer := {}

namespace ServeFlags

def onLayer (change : Settings.Layer → Settings.Layer) (f : ServeFlags) : ServeFlags :=
  { f with layer := change f.layer }

def flags : List (Flag ServeFlags) :=
  [.of "config" readPath fun v f => { f with config := some v },
    .of "listen" readAddress fun v => onLayer fun l => { l with listenAddr := some v },
    .of "data-dir" readPath fun v => onLayer fun l => { l with dataDir := some v },
    .of "storage" (readChoice StorageKind.ofText?) fun v => onLayer fun l => { l with storage := some v },
    .of "max-count" readNatural fun v => onLayer fun l => { l with maxCount := some v },
    .of "max-depth" readNatural fun v => onLayer fun l => { l with maxDepth := some v },
    .of "max-array-len" readNatural fun v => onLayer fun l => { l with maxArrayLen := some v },
    .of "max-values" readNatural fun v => onLayer fun l => { l with maxValues := some v },
    .of "timeout-secs" readNatural fun v => onLayer fun l => { l with generationTimeoutSecs := some v },
    .of "image-base-url" readText fun v => onLayer fun l => { l with imageBaseUrl := some v }]

end ServeFlags

structure GenerateFlags where
  schema : Option String := none
  count : Option UInt64 := none
  seed : Option UInt64 := none
  out : Option String := none
  storeDir : Option String := none
  config : Option String := none

namespace GenerateFlags

def flags : List (Flag GenerateFlags) :=
  [.of "schema" readPath fun v f => { f with schema := some v },
    .of "count" readNatural fun v f => { f with count := some v },
    .of "seed" readNatural fun v f => { f with seed := some v },
    .of "out" readPath fun v f => { f with out := some v },
    .of "store-dir" readPath fun v f => { f with storeDir := some v },
    .of "config" readPath fun v f => { f with config := some v }]

def sink (f : GenerateFlags) : Except UsageError Sink :=
  match f.out, f.storeDir with
  | some _, some _ => .error (.conflicting "out" "store-dir")
  | some path, none => .ok (.file path)
  | none, some directory => .ok (.store directory)
  | none, none => .ok .output

def command (f : GenerateFlags) : Except UsageError GenerateCommand := do
  let sink ← f.sink
  match f.schema, f.count with
  | some schema, some count => return ⟨schema, count, f.seed, sink, f.config⟩
  | none, _ => throw (.missing "schema")
  | _, none => throw (.missing "count")

end GenerateFlags

def readFlags {ρ : Type} (flags : List (Flag ρ)) (initial : ρ) (words : List String) :
    Except UsageError (LogFlags × ρ) :=
  let level : Level (LogFlags × ρ) := ⟨LogFlags.flags.map Flag.onFirst ++ flags.map Flag.onSecond, [], false⟩
  level.read ({}, initial) words

def commandNames : List String := ["serve", "generate", "tags", "json-schema"]

def topLevel : Level LogFlags := ⟨LogFlags.flags, commandNames, true⟩

def readCommand (name : String) (words : List String) : Except UsageError (LogFlags × Command) := do
  match name with
  | "serve" =>
    let (log, f) ← readFlags ServeFlags.flags {} words
    return (log, .serve f.config f.layer)
  | "generate" =>
    let (log, f) ← readFlags GenerateFlags.flags {} words
    return (log, .generate (← f.command))
  | "tags" =>
    let (log, ()) ← readFlags [] () words
    return (log, .tags)
  | "json-schema" =>
    let (log, ()) ← readFlags [] () words
    return (log, .schemas)
  | name => throw (.unknownCommand name)

def Invocation.ofArguments (words : List String) : Except UsageError Invocation := do
  let (m, command) ← topLevel.scan (.start {}) words
  match command with
  | none =>
    let m ← m.settle
    throw (if m.given = [] then .nothingGiven else .noCommand)
  | some (name, rest) =>
    let (inner, command) ← readCommand name rest
    let outer := (← m.settle).values
    return ⟨(inner.format.or outer.format).getD .pretty, inner.file.or outer.file, command⟩

end Specimen.CommandLine
