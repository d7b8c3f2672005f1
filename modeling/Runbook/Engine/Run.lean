import Runbook.Engine.State
import Runbook.Reference
import Runbook.Value.Text

namespace Runbook.Engine

variable {σ : Type}

/-- A run that could not be dispatched is part of the history all the same. -/
def recordUnresolved (cause : ReferenceFault) (r : Run) : Act σ Run := do
  let r := { r with error := some (.unresolved cause) }
  modify fun s => { s with
    history := s.history.append r
    plan := { s.plan with results := s.plan.results ++ [r] } }
  pure r

def recordOutcome (p : Plan) (o : Outcome) (r : Run) : Plan :=
  { p with
    newFailures := p.newFailures ++ o.payloads
    counts := { p.counts with fuzzTotal := p.counts.fuzzTotal + o.fuzzTotal }
    results := p.results ++ [r] }

def dispatch (e : Engine σ) (r : Run) (suite : Suite) : Act σ Run := do
  -- The history keeps the run also when the runner fails to answer.
  modify fun s => { s with history := s.history.append r }
  let o ← e.call r suite
  let r := r.withOutcome o
  modify fun s => { s with history := s.history.finishLast r, plan := recordOutcome s.plan o r }
  pure r

def execute (e : Engine σ) (t : Test) (suite : Suite) (parent : Option Test) : Act σ Run := do
  match Reference.resolveRun (← get).history (Run.ofTest t suite parent) with
  | (r, none) => e.dispatch r suite
  | (r, some (.unresolved cause)) => recordUnresolved cause r
  | (_, some f) => throw f

def stepFailed (r : Run) (f : Fault) : Notice :=
  .stepFailed (Text.upper r.method) (r.path.text?.getD "") r.name f.message

def report (e : Engine σ) (r : Run) : Act σ Unit := do
  match r.error with
  | some f => notify (stepFailed r f)
  | none => pure ()
  display (Screen.stepResult e.console r)

end Runbook.Engine

namespace Runbook.SuiteResult

def start (n : Nat) : SuiteResult := ⟨{ Counts.zero with total := n }, none⟩

def add (x : SuiteResult) (r : Run) : SuiteResult :=
  let mismatches := if r.schemaError.isSome then 1 else 0
  let counts := { x.counts with schemaMismatch := x.counts.schemaMismatch + mismatches }
  match r.error with
  | some f => ⟨{ counts with failed := counts.failed + 1 }, x.error.or (some f)⟩
  | none => ⟨{ counts with passed := counts.passed + 1 }, x.error⟩

def merge (x below : SuiteResult) : SuiteResult :=
  ⟨{ x.counts with total := x.counts.total - 1 } + below.counts, x.error.or below.error⟩

def skip (x : SuiteResult) (n : Nat) : SuiteResult :=
  { x with counts := { x.counts with skipped := x.counts.skipped + n } }

end Runbook.SuiteResult

namespace Runbook.Engine

variable {σ : Type}

/-- After a creation that failed the rest of its suite makes no sense. -/
def failsRest (r : Run) : Bool :=
  r.isCreate && r.response.all fun a => 300 ≤ a.status

/-- Run the suite that a step names. That there is no such suite is a result. -/
def reach (sub : String → Option Test → Act σ SuiteResult) (t : Test) (strict : Bool) :
    Act σ SuiteResult :=
  tryCatch (sub t.ref (some { t with strict := strict })) fun
    | .suiteNotFound name => pure ⟨.zero, some (.suiteNotFound name)⟩
    | f => throw f

def steps (e : Engine σ) (sub : String → Option Test → Act σ SuiteResult) (name : String)
    (parent : Option Test) : List Test → SuiteResult → Act σ SuiteResult
  | [], x => pure x
  | t :: ts, x => do
    -- Read anew for each step, as the steps before it may have mended the defaults.
    let suite := (← get).plan.suite name
    if t.ref ≠ "" then
      let below ← reach sub t suite.strict
      match e.nested with
      | .replace => if below.error.isSome then pure below else e.steps sub name parent ts x
      | .accumulate => e.steps sub name parent ts (x.merge below)
    else if t.name = initName then
      updatePlan (·.updateSuite name (·.applyInit t))
      e.steps sub name parent ts x
    else
      let r ← e.execute t suite parent
      e.report r
      if failsRest r then
        display (Screen.skipping e.console ts.length)
        pure ((x.add r).skip ts.length)
      else e.steps sub name parent ts (x.add r)

/-- Run a suite and what it reaches, at most `depth` suites deep. -/
def runWithin (e : Engine σ) : Nat → String → Option Test → Act σ SuiteResult
  | 0, name, _ => do throw (.recursion ((← get).active ++ [name]))
  | depth + 1, name, parent => do
    let suite ← ready name
    modify (enter name)
    ensuring (leave name) do
      display (Screen.suiteStart e.console name (parent.map (·.name)))
      e.steps (e.runWithin depth) name parent suite.tests (.start suite.tests.length)

/-- Run a suite. The active suites are different ones of the plan, so that the bound is never met. -/
def run (e : Engine σ) (name : String) (parent : Option Test) : Act σ SuiteResult := do
  e.runWithin ((← get).plan.suites.size + 1) name parent

def runAll (e : Engine σ) : List String → Act σ (List SuiteResult)
  | [] => pure []
  | name :: names => do
    let x ← e.run name none
    updatePlan fun p => { p with counts := p.counts + x.counts }
    return x :: (← e.runAll names)

def runPlan (e : Engine σ) (names : Option (List String)) : Act σ (List SuiteResult) := do
  e.runAll (names.getD (← get).plan.suiteNames)

end Runbook.Engine
