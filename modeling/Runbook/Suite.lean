import Runbook.Test

namespace Runbook

/-- A copy of the schema store, made for one activation of a suite. -/
structure SchemaClone where
  label : String
deriving DecidableEq, Repr

/-- The store of schemas, which counts the copies made of it. -/
structure SchemaStore where
  clones : Nat
deriving DecidableEq, Repr

def SchemaStore.clone (s : SchemaStore) : SchemaClone × SchemaStore :=
  (⟨"clone" ++ toString (s.clones + 1)⟩, ⟨s.clones + 1⟩)

structure Suite where
  name : String
  tests : List Test
  params : Params
  strict : Bool
  auth : Auth
  comment : String
  /-- Set while the suite is active. -/
  schema : Option SchemaClone

/-- The step `meqa_init` sets defaults and the suite of this name holds the defaults of a plan. -/
def initName : String := "meqa_init"

namespace Suite

/-- A defaults step is copied into the defaults of the steps after it. -/
def applyInit (s : Suite) (t : Test) : Suite :=
  { s with params := s.params.copyFrom t.params, strict := t.strict }

end Suite

end Runbook
