import Runbook.FuzzValue
import Runbook.PathTemplate
import Runbook.Notice
import Runbook.Run
import Runbook.Text.Case

namespace Runbook

structure Outcome where
  response : Option Response
  payloads : List Payload
  schemaError : Option String
  responseError : Option StepFailure
  fuzzTotal : Int

/-- A runner carries out steps. Each answer may depend on all the steps before it, through the state
`σ`; a runner may also fail to answer at all. -/
structure Runner (σ : Type) where
  run : Run → Suite → σ → (Except Fault Outcome × List Notice) × σ

namespace Outcome

/-- Whether a status is what the expectation says: a whole number has to be met, `fail` takes 300 and
above, and everything else what is below 300. -/
def meets (expected : Value) (status : Int) : Except Fault Bool :=
  match expected with
  | .int n => .ok (status == n)
  | .bool b => .ok (status == (if b then 1 else 0))
  | v =>
    match v.text? with
    | none => .error (.data .value)
    | some t => .ok (if Text.lower t == "fail" then 300 ≤ status else status < 300)

def statusFailure (expected : Value) (status : Int) : Except Fault StepFailure :=
  match expected.text? with
  | none => .error (.data .value)
  | some t => .ok ⟨"Expected status " ++ t ++ ", got " ++ toString status, some status⟩

/-- The failure of a step with this status. Without an expectation a step should succeed. -/
def checkStatus (status : Int) (expect : Slot) : Except Fault (Option StepFailure) :=
  let expected := (expect.get? "status").getD (.str "success")
  match meets expected status with
  | .error f => .error f
  | .ok true => .ok none
  | .ok false => (statusFailure expected status).map some

end Outcome

/-- A run with what its runner made of it. A mismatch with the schema fails it only if it is strict. -/
def Run.withOutcome (r : Run) (o : Outcome) : Run :=
  let mismatch := if r.strict then o.schemaError.map Fault.schema else none
  { r with
    response := o.response
    schemaError := o.schemaError
    responseError := o.responseError
    error := (o.responseError.map Fault.step).or mismatch }

end Runbook
