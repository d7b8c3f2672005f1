import Runbook.History
import Runbook.Notice
import Runbook.Outcome
import Runbook.Plan
import Runbook.Screen.Report

namespace Runbook

/-- What becomes of the counts of a suite that a step reaches. -/
inductive NestedCounts where
  /-- They take the place of all others if the suite fails, and are dropped otherwise. -/
  | replace
  /-- They are added to the others. -/
  | accumulate
deriving DecidableEq, Repr

/-- The counts of a suite and the first fault of its steps. -/
structure SuiteResult where
  counts : Counts
  error : Option Fault

structure Engine (σ : Type) where
  runner : Runner σ
  nested : NestedCounts
  console : Screen.Console

namespace Engine

variable {σ α : Type}

structure State (σ : Type) where
  plan : Plan
  history : History
  /-- The suites that have been entered and not left, the outermost first. -/
  active : List String
  runner : σ
  notices : List Notice
  screen : String

abbrev Act (σ : Type) := ExceptT Fault (StateM (State σ))

def State.start (p : Plan) (runner : σ) : State σ := ⟨p, .empty, [], runner, [], ""⟩

def updatePlan (f : Plan → Plan) : Act σ Unit := modify fun s => { s with plan := f s.plan }

def notify (n : Notice) : Act σ Unit := modify fun s => { s with notices := s.notices ++ [n] }

def display (text : Except Fault String) : Act σ Unit :=
  match text with
  | .ok t => modify fun s => { s with screen := s.screen ++ t }
  | .error f => throw f

def displayPrinted (x : Screen.Printed) : Act σ Unit := do
  display (.ok x.text)
  x.fault.elim (pure ()) throw

/-- Whatever becomes of `act`, the state is mended afterwards. -/
def ensuring (after : State σ → State σ) (act : Act σ α) : Act σ α :=
  ExceptT.mk fun s => ((act.run s).1, after (act.run s).2)

def call (e : Engine σ) (r : Run) (suite : Suite) : Act σ Outcome :=
  ExceptT.mk fun s =>
    let ((result, notices), runner) := e.runner.run r suite s.runner
    (result, { s with runner := runner, notices := s.notices ++ notices })

def enter (name : String) (s : State σ) : State σ :=
  { s with active := s.active ++ [name], plan := s.plan.openSchema name }

def leave (name : String) (s : State σ) : State σ :=
  { s with active := s.active.dropLast, plan := s.plan.closeSchema name }

/-- The suite as it stands, if it can be entered now. -/
def ready (name : String) : Act σ Suite := do
  let s ← get
  match s.plan.runnable? name with
  | none => do
    notify (.suiteNotFound name)
    throw (.suiteNotFound name)
  | some suite =>
    if s.active.contains name then throw (.recursion (s.active ++ [name]))
    else pure suite

end Engine

end Runbook
