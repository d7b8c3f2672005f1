import Runbook.FuzzValue
import Runbook.Registry
import Runbook.Run

namespace Runbook

structure Counts where
  total : Int
  passed : Int
  failed : Int
  skipped : Int
  schemaMismatch : Int
  fuzzTotal : Int
deriving DecidableEq, Repr

namespace Counts

def zero : Counts := ⟨0, 0, 0, 0, 0, 0⟩

instance : Inhabited Counts := ⟨zero⟩

def add (a b : Counts) : Counts where
  total := a.total + b.total
  passed := a.passed + b.passed
  failed := a.failed + b.failed
  skipped := a.skipped + b.skipped
  schemaMismatch := a.schemaMismatch + b.schemaMismatch
  fuzzTotal := a.fuzzTotal + b.fuzzTotal

instance : Add Counts := ⟨add⟩

end Counts

structure Plan where
  store : Option SchemaStore
  baseUrl : String
  auth : Auth
  fuzzType : String
  repro : Bool
  /-- The defaults of suites that are still to be declared. -/
  params : Params
  strict : Bool
  comment : String
  suites : Registry
  results : List Run
  counts : Counts
  oldFailures : FailureIndex
  newFailures : List Payload
  otherFailures : List Payload

namespace Plan

/-- What a plan is opened with. -/
structure Options where
  store : Option SchemaStore
  baseUrl : String
  auth : Auth
  fuzzType : String
  repro : Bool

def Options.default : Options := ⟨none, "", .none, "none", false⟩

def ofOptions (o : Options) : Plan where
  store := o.store
  baseUrl := o.baseUrl
  auth := o.auth
  fuzzType := o.fuzzType
  repro := o.repro
  params := .empty
  strict := false
  comment := ""
  suites := .empty
  results := []
  counts := .zero
  oldFailures := .empty
  newFailures := []
  otherFailures := []

instance : Inhabited Plan := ⟨ofOptions .default⟩

def suiteNames (p : Plan) : List String := p.suites.order

def createSuite (p : Plan) (name : String) (tests : List Test) : Suite where
  name := name
  tests := tests
  params := Params.empty.copyFrom p.params
  strict := p.strict
  auth := p.auth
  comment := ""
  schema := none

/-- The suite of this name; if there is none, one without steps. -/
def suite (p : Plan) (name : String) : Suite := (p.suites.get? name).getD (p.createSuite name [])

def add (p : Plan) (s : Suite) : Except Fault Plan :=
  if p.suites.contains s.name then .error (.duplicateSuite s.name)
  else .ok { p with suites := p.suites.put s.name s }

/-- The suite of this name; a suite without steps counts as none. -/
def runnable? (p : Plan) (name : String) : Option Suite :=
  (p.suites.get? name).filter fun s => !s.tests.isEmpty

def updateSuite (p : Plan) (name : String) (f : Suite → Suite) : Plan :=
  match p.suites.get? name with
  | some s => { p with suites := p.suites.put name (f s) }
  | none => p

def openSchema (p : Plan) (name : String) : Plan :=
  match p.store.map SchemaStore.clone with
  | some (clone, store) =>
    { p with store := some store }.updateSuite name fun s => { s with schema := some clone }
  | none => p.updateSuite name fun s => { s with schema := none }

def closeSchema (p : Plan) (name : String) : Plan :=
  p.updateSuite name fun s => { s with schema := none }

def applyDefaults (p : Plan) (t : Test) : Plan :=
  { p with params := p.params.copyFrom t.params, strict := t.strict }

def resetResults (p : Plan) : Plan :=
  { p with results := [], counts := .zero, newFailures := [] }

def isKnownFailure (p : Plan) (x : Payload) : Except Fault Bool :=
  p.oldFailures.contains x

end Plan

end Runbook
