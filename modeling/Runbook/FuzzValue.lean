import Runbook.Payload

namespace Runbook

structure FuzzValue where
  value : Value
  fuzzType : String

/-- What tells one fuzz value from another. -/
structure FuzzKey where
  text : String
  fuzzType : String
deriving DecidableEq, Repr

namespace FuzzValue

def style : Json.Style where
  comma := ", "
  colon := ": "
  asciiOnly := true
  numbers := { Value.numbers with nan := "NaN", infinity := "Infinity" }

def rules : Value.JsonRules where
  whole := Value.textualWhole
  number x := .ok (x.toInt?.elim (.float x) .int)
  key := Value.documentKey fun x => .ok (style.numbers.text x)
  setsAreLists := false
  other v := v.text?.elim (.error (.data .value)) fun s => .ok (.str s)
  sorted := true

def keyText (v : FuzzValue) : Except Fault String :=
  (v.value.toJson rules).map style.text

def key (v : FuzzValue) : Except Fault FuzzKey := v.keyText.map (⟨·, v.fuzzType⟩)

def equals (v w : FuzzValue) : Except Fault Bool := do
  let k ← v.key
  let l ← w.key
  return k == l

end FuzzValue

def Payload.fuzzValue (p : Payload) : FuzzValue := ⟨p.value, p.fuzzType⟩

/-- Fuzz values, each of them once. -/
structure FuzzSet where
  keys : List FuzzKey
  distinct : keys.Nodup

namespace FuzzSet

def empty : FuzzSet := ⟨[], .nil⟩

def insert (s : FuzzSet) (k : FuzzKey) : FuzzSet :=
  if h : k ∈ s.keys then s else ⟨k :: s.keys, List.nodup_cons.2 ⟨h, s.distinct⟩⟩

def contains (s : FuzzSet) (k : FuzzKey) : Bool := s.keys.contains k

def size (s : FuzzSet) : Nat := s.keys.length

end FuzzSet

/-- The known failures: the fuzz values of each field of each method of each endpoint. -/
structure FailureIndex where
  endpoints : Dict String (Dict String (Dict String FuzzSet))

namespace FailureIndex

def empty : FailureIndex := ⟨.empty⟩

def methods (i : FailureIndex) (endpoint : String) : Dict String (Dict String FuzzSet) :=
  (i.endpoints.get? endpoint).getD .empty

def fields (i : FailureIndex) (endpoint method : String) : Dict String FuzzSet :=
  ((i.methods endpoint).get? method).getD .empty

def values (i : FailureIndex) (endpoint method field : String) : FuzzSet :=
  ((i.fields endpoint method).get? field).getD .empty

def insert (i : FailureIndex) (endpoint method field : String) (k : FuzzKey) : FailureIndex :=
  let values := (i.values endpoint method field).insert k
  let fields := (i.fields endpoint method).put field values
  ⟨i.endpoints.put endpoint ((i.methods endpoint).put method fields)⟩

def add (i : FailureIndex) (p : Payload) : Except Fault FailureIndex :=
  p.fuzzValue.key.map (i.insert p.endpoint p.method p.field)

def contains (i : FailureIndex) (p : Payload) : Except Fault Bool :=
  p.fuzzValue.key.map (i.values p.endpoint p.method p.field).contains

def size (i : FailureIndex) : Nat :=
  let sizes :=
    i.endpoints.values.flatMap fun methods =>
      methods.values.flatMap fun fields => fields.values.map FuzzSet.size
  sizes.foldl (· + ·) 0

end FailureIndex

end Runbook
