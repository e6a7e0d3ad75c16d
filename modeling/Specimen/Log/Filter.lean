import Specimen.Text.Span

/-! Of the directives of a filter, the one for the longest name counts. -/

namespace Specimen.Log

inductive Level where
  | error
  | warn
  | info
  | debug
  | trace
  deriving DecidableEq

namespace Level

def name : Level → String
  | .error => "ERROR"
  | .warn => "WARN"
  | .info => "INFO"
  | .debug => "DEBUG"
  | .trace => "TRACE"

def verbosity : Level → Nat
  | .error => 1
  | .warn => 2
  | .info => 3
  | .debug => 4
  | .trace => 5

end Level

structure Event where
  level : Level
  target : String
  message : String
  deriving DecidableEq

structure Directive where
  target : String
  verbosity : Nat
  deriving DecidableEq

namespace Directive

def verbosity? (s : String) : Option Nat :=
  match s.toLower with
  | "off" | "0" => some 0
  | "error" | "1" => some 1
  | "warn" | "2" => some 2
  | "info" | "3" => some 3
  | "debug" | "4" => some 4
  | "trace" | "5" => some 5
  | _ => none

def isTargetChar (c : Char) : Bool := c.isAlphanum || c == '_' || c == ':' || c == '-'

def isTarget (s : String) : Bool := s != "" && s.toList.all isTargetChar

def ofText? (s : String) : Option Directive :=
  match verbosity? s, Text.splitOn '=' s with
  | some v, _ => some ⟨"", v⟩
  | none, [target] | none, [target, ""] => if isTarget target then some ⟨target, Level.trace.verbosity⟩ else none
  | none, [target, level] => if isTarget target then (verbosity? level).map (⟨target, ·⟩) else none
  | none, _ => none

end Directive

structure Filter where
  directives : List Directive
  deriving DecidableEq

namespace Filter

/-- The directive for the longest name that the target begins with, and of those for one name the last. -/
def directive? (f : Filter) (target : String) : Option Directive :=
  (f.directives.filter fun d => d.target.toList.isPrefixOf target.toList).foldl
    (fun best d =>
      match best with
      | some b => if b.target.length ≤ d.target.length then some d else some b
      | none => some d) none

def admits (f : Filter) (e : Event) : Bool :=
  match f.directive? e.target with
  | some d => e.level.verbosity ≤ d.verbosity
  | none => false

/-- Directives with commas between them. Errors are told of where there are none, and everything down to
`info` where one of them is malformed. -/
def ofText (s : String) : Filter :=
  match ((Text.splitOn ',' s).filter (· ≠ "")).mapM Directive.ofText? with
  | some [] => ⟨[⟨"", Level.error.verbosity⟩]⟩
  | some directives => ⟨directives⟩
  | none => ⟨[⟨"", Level.info.verbosity⟩]⟩

end Filter

end Specimen.Log
