import Specimen.Engine.Options
import Specimen.Schema.Basic

/-! The limits are checked before anything is drawn, and the first node in preorder that breaks one is named. -/

namespace Specimen

inductive GenerationError where
  | depthExceeded (limit : UInt64)
  | arrayTooLarge (path : Schema.Path) (maxSize limit : UInt64)
  | valueBudgetExceeded (limit : UInt64)
  | cancelled (recordsDone : Nat)
  /-- No length lies between the sizes of an array. Schemas that are read from JSON have none such. -/
  | noLength (minSize maxSize : UInt64)
  deriving DecidableEq

namespace GenerationError

def message : GenerationError → String
  | .depthExceeded limit => s!"schema nests deeper than {limit} levels"
  | .arrayTooLarge path maxSize limit =>
    s!"array at {path.text} allows {maxSize} elements, above the limit of {limit}"
  | .valueBudgetExceeded limit => s!"generation would produce more than {limit} values"
  | .cancelled recordsDone => s!"generation cancelled after {recordsDone} records"
  | .noLength minSize maxSize => s!"no length lies between {minSize} and {maxSize}"

end GenerationError

namespace Options

variable (o : Options)

mutual

def checkLimits (path : Schema.Path) : Schema → Except GenerationError Unit
  | .scalar _ | .image _ =>
    if o.maxDepth.toNat < path.level then .error (.depthExceeded o.maxDepth) else .ok ()
  | .object fields =>
    if o.maxDepth.toNat < path.level then .error (.depthExceeded o.maxDepth) else checkFields path fields
  | .array _ maxSize element =>
    if o.maxDepth.toNat < path.level then .error (.depthExceeded o.maxDepth)
    else if o.maxArrayLen < maxSize then .error (.arrayTooLarge path maxSize o.maxArrayLen)
    else checkLimits (.element :: path) element

def checkFields (path : Schema.Path) : List (String × Schema) → Except GenerationError Unit
  | [] => .ok ()
  | (name, s) :: rest =>
    match checkLimits (.field name :: path) s with
    | .error e => .error e
    | .ok () => checkFields path rest

end

end Options

end Specimen
