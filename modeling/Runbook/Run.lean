import Runbook.Fault
import Runbook.Suite

namespace Runbook

structure Response where
  status : Int
  body : Value
  text : String

structure Run where
  name : String
  method : String
  /-- A text unless a reference put something else in its place. -/
  path : Value
  params : Params
  strict : Bool
  expect : Slot
  auth : Auth
  suite : String
  schema : Option SchemaClone
  response : Option Response
  schemaError : Option String
  responseError : Option StepFailure
  error : Option Fault

namespace Run

def underParent (r : Run) (parent : Test) : Run :=
  { r with
    params := r.params.copyFrom parent.params
    strict := parent.strict
    expect := if parent.expect.isEmpty then r.expect else parent.expect
    name := parent.name }

/-- The execution record of a step before it runs: the arguments of the parent win over those of
the step, and the defaults of the suite fill what both leave open. -/
def ofTest (t : Test) (s : Suite) (parent : Option Test) : Run :=
  let own : Run := {
    name := t.name
    method := t.method
    path := .str t.path
    params := t.params
    strict := s.strict
    expect := t.expect
    auth := s.auth.override t.auth
    suite := s.name
    schema := s.schema
    response := none
    schemaError := none
    responseError := none
    error := none }
  let run := parent.elim own own.underParent
  { run with params := run.params.addFrom s.params }

def isCreate (r : Run) : Bool :=
  r.method == "post" && r.params.path.isEmpty

def toDsl (r : Run) : List (String × Value) :=
  ("name", .str r.name) :: ("method", .str r.method) :: ("path", r.path) ::
    (r.params.toDsl ++ Test.dslStrict r.strict ++ Test.dslExpect r.expect)

end Run

end Runbook
