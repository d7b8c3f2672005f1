import Runbook.Value
import Runbook.Text.Utf8

namespace Runbook

/-- One step from a piece of data to a part of it. -/
inductive PlaceStep where
  | name (s : String)
  | number (n : Int)
deriving DecidableEq, Repr

/-- What a piece of data fails to be. -/
inductive Demand where
  | text
  | readableText
  | flag
  /-- A flag that is written as a word or a number. -/
  | flagWord
  | mapping
  | record
  | present
  | json
deriving DecidableEq, Repr

structure Mistake where
  place : List PlaceStep
  demand : Demand
deriving DecidableEq, Repr

inductive Checked (α : Type) where
  | ok (a : α)
  | mistaken (ms : List Mistake)

namespace Checked

variable {α β : Type}

def fail (d : Demand) : Checked α := .mistaken [⟨[], d⟩]

def map (f : α → β) : Checked α → Checked β
  | ok a => ok (f a)
  | mistaken ms => mistaken ms

def seq (f : Checked (α → β)) (x : Checked α) : Checked β :=
  match f, x with
  | ok f, ok a => ok (f a)
  | ok _, mistaken ms => mistaken ms
  | mistaken ms, ok _ => mistaken ms
  | mistaken ms, mistaken ns => mistaken (ms ++ ns)

instance : Functor Checked := { map := Checked.map }

instance : Seq Checked := { seq := fun f x => Checked.seq f (x ()) }

def within (s : PlaceStep) : Checked α → Checked α
  | ok a => ok a
  | mistaken ms => mistaken (ms.map fun m => { m with place := s :: m.place })

end Checked

namespace Check

def text : Value → Checked String
  | .str s => .ok s
  | .bytes data =>
    match Text.Utf8.decode? data with
    | some cs => .ok (String.ofList cs)
    | none => .fail .readableText
  | _ => .fail .text

def flagOfWord (s : String) : Checked Bool :=
  let word := String.ofList (s.toList.map Char.toLower)
  if ["0", "f", "n", "no", "off", "false"].contains word then .ok false
  else if ["1", "t", "y", "yes", "on", "true"].contains word then .ok true
  else .fail .flagWord

def flagOfNumber : Int → Checked Bool
  | 0 => .ok false
  | 1 => .ok true
  | _ => .fail .flagWord

/-- A flag, or a word or number of at most 64 bits that stands for one. -/
def flag : Value → Checked Bool
  | .bool b => .ok b
  | .int n => if -Int.pow 2 63 ≤ n ∧ n < Int.pow 2 63 then flagOfNumber n else .fail .flag
  | .float x =>
    match x.toInt? with
    | some n => if -Int.pow 2 63 < n ∧ n < Int.pow 2 63 then flagOfNumber n else .fail .flag
    | none => .fail .flag
  | .str s => flagOfWord s
  | .bytes data =>
    match Text.Utf8.decode? data with
    | some cs => flagOfWord (String.ofList cs)
    | none => .fail .flagWord
  | _ => .fail .flag

end Check

end Runbook
