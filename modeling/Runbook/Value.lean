import Runbook.Calendar

namespace Runbook

inductive Value where
  | null
  | bool (b : Bool)
  | int (n : Int)
  | float (x : Binary64)
  | str (s : String)
  | list (items : List Value)
  | tuple (items : List Value)
  | map (entries : List (Value × Value))
  | bytes (data : List UInt8)
  | set (items : List Value)
  | date (d : Date)
  | dateTime (t : DateTime)

namespace Value

instance : Inhabited Value := ⟨null⟩

def whole? : Value → Option Int
  | bool b => some (if b then 1 else 0)
  | int n => some n
  | float x => x.toInt?
  | _ => none

mutual

def same : Value → Value → Bool
  | null, null => true
  | str s, str t => s == t
  | bytes a, bytes b => a == b
  | date a, date b => decide (a = b)
  | dateTime a, dateTime b => a.same b
  | list xs, list ys => sameItems xs ys
  | tuple xs, tuple ys => sameItems xs ys
  | map xs, map ys => xs.length == ys.length && sameEntries xs ys
  | set xs, set ys => xs.length == ys.length && allIn xs ys
  | float x, float y => x.same y
  | bool a, v => v.whole? == some (if a then 1 else 0)
  | int n, v => v.whole? == some n
  | float x, bool b => x.toInt? == some (if b then 1 else 0)
  | float x, int n => x.toInt? == some n
  | _, _ => false

def sameItems : List Value → List Value → Bool
  | [], [] => true
  | x :: xs, y :: ys => same x y && sameItems xs ys
  | _, _ => false

def sameEntries : List (Value × Value) → List (Value × Value) → Bool
  | [], _ => true
  | (k, v) :: xs, ys => (ys.any fun e => same k e.1 && same v e.2) && sameEntries xs ys

def allIn : List Value → List Value → Bool
  | [], _ => true
  | x :: xs, ys => (ys.any fun y => same x y) && allIn xs ys

end

instance : BEq Value := ⟨same⟩

mutual

def isKey : Value → Bool
  | list _ => false
  | map _ => false
  | set _ => false
  | tuple items => areKeys items
  | _ => true

def areKeys : List Value → Bool
  | [] => true
  | v :: vs => isKey v && areKeys vs

end

mutual

/-- How many values lie one inside the other. Keys do not count. -/
def depth : Value → Nat
  | list items | tuple items | set items => depths items + 1
  | map entries => entryDepths entries + 1
  | _ => 1

def depths : List Value → Nat
  | [] => 0
  | v :: vs => max (depth v) (depths vs)

def entryDepths : List (Value × Value) → Nat
  | [] => 0
  | (_, v) :: es => max (depth v) (entryDepths es)

end

def str? : Value → Option String
  | str s => some s
  | _ => none

def field? (k : String) : Value → Option Value
  | map es => (es.find? fun e => e.1 == .str k).map (·.2)
  | _ => none

end Value

end Runbook
