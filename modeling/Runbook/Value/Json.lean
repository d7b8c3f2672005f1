import Runbook.Fault
import Runbook.Json.Writing
import Runbook.Value.Text

namespace Runbook.Value

mutual

def ofJson : Json → Value
  | .null => null
  | .bool b => bool b
  | .int n => int n
  | .float x => float x
  | .str s => str s
  | .list js => list (ofJsons js)
  | .map es => map (ofJsonEntries es)

def ofJsons : List Json → List Value
  | [] => []
  | j :: js => ofJson j :: ofJsons js

def ofJsonEntries : List (String × Json) → List (Value × Value)
  | [] => []
  | (k, j) :: es => (str k, ofJson j) :: ofJsonEntries es

end

/-- How data is written that documents do not have. -/
structure JsonRules where
  whole : Int → Except Fault Json
  number : Binary64 → Except Fault Json
  /-- The text of a key. -/
  key : Value → Except Fault String
  /-- Whether a set is a list; else it is one of the others. -/
  setsAreLists : Bool
  /-- Bytes, sets, dates and times. -/
  other : Value → Except Fault Json
  /-- Whether entries are sorted by key, which takes keys that can be compared. -/
  sorted : Bool

/-- A whole number as itself, if it has a text. -/
def textualWhole (n : Int) : Except Fault Json :=
  if (intText? n).isSome then .ok (.int n) else .error (.data .value)

def isNumber : Value → Bool
  | bool _ => true
  | int _ => true
  | float _ => true
  | _ => false

def isText : Value → Bool
  | str _ => true
  | _ => false

def comparable (ks : List Value) : Bool :=
  ks.length ≤ 1 || ks.all isText || ks.all isNumber

def units? : Value → Option Int
  | float x => x.units?
  | v => v.whole?.map (· * Int.pow 2 1074)

def keyLess : Value → Value → Bool
  | str a, str b => a < b
  | float .nan, _ => false
  | _, float .nan => false
  | float (.infinite negative), float (.infinite other) => negative && !other
  | float (.infinite negative), _ => negative
  | _, float (.infinite negative) => !negative
  | a, b => decide ((a.units?.getD 0) < (b.units?.getD 0))

variable {α : Type}

def insertEntry (e : Value × α) : List (Value × α) → List (Value × α)
  | [] => [e]
  | x :: xs => if keyLess e.1 x.1 then e :: x :: xs else x :: insertEntry e xs

def sortEntries (es : List (Value × α)) : List (Value × α) :=
  es.foldl (fun sorted e => insertEntry e sorted) []

mutual

def toJson (r : JsonRules) : Value → Except Fault Json
  | null => .ok .null
  | bool b => .ok (.bool b)
  | int n => r.whole n
  | float x => r.number x
  | str s => .ok (.str s)
  | list vs => (toJsons r vs).map .list
  | tuple vs => (toJsons r vs).map .list
  | map es =>
    if r.sorted && !comparable (es.map (·.1)) then .error (.data .kind)
    else
      (toJsonEntries r es).map fun js =>
        .map ((if r.sorted then sortEntries js else js).map (·.2))
  | set vs => if r.setsAreLists then (toJsons r vs).map .list else r.other (set vs)
  | v => r.other v

def toJsons (r : JsonRules) : List Value → Except Fault (List Json)
  | [] => .ok []
  | v :: vs =>
    match toJson r v with
    | .error f => .error f
    | .ok j => (toJsons r vs).map (j :: ·)

def toJsonEntries (r : JsonRules) :
    List (Value × Value) → Except Fault (List (Value × String × Json))
  | [] => .ok []
  | (k, v) :: es =>
    match r.key k, toJson r v with
    | .error f, _ => .error f
    | _, .error f => .error f
    | .ok t, .ok j => (toJsonEntries r es).map ((k, t, j) :: ·)

end

/-- A key as text in the way of documents: words for null and flags, digits for numbers. -/
def documentKey (number : Binary64 → Except Fault String) : Value → Except Fault String
  | str s => .ok s
  | null => .ok "null"
  | bool b => .ok (if b then "true" else "false")
  | int n => (intText? n).elim (.error (.data .value)) .ok
  | float x => number x
  | _ => .error (.data .kind)

end Runbook.Value
