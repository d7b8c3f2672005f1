import Runbook.Dict
import Runbook.Suite

namespace Runbook

theorem Dict.keys_putIn {κ α : Type} [BEq κ] (k : κ) (a : α) (es : List (κ × α)) :
    (putIn k a es).map (·.1) =
      if (find? k es).isSome then es.map (·.1) else es.map (·.1) ++ [k] := by
  induction es with
  | nil => rfl
  | cons e es ih =>
    obtain ⟨x, b⟩ := e
    by_cases hx : (x == k) = true
    · simp [putIn, find?, hx]
    · simp only [putIn, find?, hx, Bool.false_eq_true, if_false, List.map_cons, ih]
      split <;> rfl

/-- Suites that are found by their names, and the names in the order in which the suites were
declared. -/
structure Registry where
  byName : Dict String Suite
  order : List String
  agree : byName.keys = order

namespace Registry

def empty : Registry := ⟨.empty, [], rfl⟩

def get? (r : Registry) (name : String) : Option Suite := r.byName.get? name

def contains (r : Registry) (name : String) : Bool := r.byName.contains name

def entries (r : Registry) : List (String × Suite) :=
  r.order.filterMap fun name => (r.get? name).map (name, ·)

def values (r : Registry) : List Suite := r.entries.map (·.2)

def size (r : Registry) : Nat := r.order.length

def put (r : Registry) (name : String) (s : Suite) : Registry where
  byName := r.byName.put name s
  order := if r.contains name then r.order else r.order ++ [name]
  agree := by
    rw [← r.agree]
    exact Dict.keys_putIn name s r.byName.entries

def ofList (es : List (String × Suite)) : Registry := es.foldl (fun r e => r.put e.1 e.2) empty

def mapValues (f : Suite → Suite) (r : Registry) : Registry where
  byName := r.byName.mapValues f
  order := r.order
  agree := by
    rw [← r.agree]
    exact List.map_map ..

end Registry

end Runbook
