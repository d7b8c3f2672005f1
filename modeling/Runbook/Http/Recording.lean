import Runbook.Http.Client
import Runbook.Text.Utf8

namespace Runbook.Http

abbrev Recording := List Reply

namespace Recording

def headers : Json → Headers
  | .map es => es.filterMap fun
    | (name, .str value) => some ⟨name, value⟩
    | _ => none
  | _ => []

def status : Json → Int
  | .int n => n
  | _ => 200

def body : Json → List UInt8
  | .str s => Text.Utf8.encode s.toList
  | _ => []

/-- A recorded answer; one without a status is a success, and one with `broken` is none. -/
def reply (j : Json) : Reply :=
  match j with
  | .map es =>
    let part (name : String) : Json := (es.lookup name).getD .null
    match part "broken" with
    | .str message => .broken message
    | _ => .answer ⟨status (part "status"), headers (part "headers"), body (part "body")⟩
  | _ => .broken "The record is no answer."

def read (text : String) : Recording :=
  ((Text.cutAt '\n' text.toList).filter fun line => !line.all Text.isBlank).map fun line =>
    match Json.read none line with
    | .ok j => reply j
    | .error _ => .broken "The record cannot be read."

/-- Give the answers in order. Behind the last one nobody answers. -/
def transport : Transport Recording where
  send _ rs :=
    match rs with
    | [] => (.broken "There is no answer.", [])
    | r :: rs => (r, rs)

end Recording

end Runbook.Http
