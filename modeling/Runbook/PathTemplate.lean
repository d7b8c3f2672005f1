import Runbook.Fault
import Runbook.Params

namespace Runbook.PathTemplate

def placeholder (key : String) : List Char := '{' :: (key.toList ++ ['}'])

/-- Fill in the parameters one after the other. A value that brings braces with it may be filled in
again by a later parameter. -/
def expand : List (String × Value) → List Char → Except Fault (List Char)
  | [], path => .ok path
  | (key, v) :: es, path =>
    match v.text? with
    | none => .error (.data .value)
    | some t => expand es (Text.replaceAll (placeholder key) t.toList path)

/-- A path that is no text cannot be filled in, and it has no use without parameters either. -/
def expandValue (params : Slot) : Value → Except Fault Value
  | .str s => (expand params.entries s.toList).map fun cs => .str (String.ofList cs)
  | v =>
    if params.isEmpty then .ok v
    else
      match v with
      | .bytes _ | .date _ | .dateTime _ => .error (.data .kind)
      | _ => .error (.data .unsuited)

end Runbook.PathTemplate
