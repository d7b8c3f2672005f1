import Runbook.Dict
import Runbook.Text.Base64
import Runbook.Text.Case
import Runbook.Value.Json
import Runbook.Yaml.Node

namespace Runbook.Yaml

/-- A fault with the round in which it comes up. -/
abbrev Built (α : Type) := Except (Nat × ReadFault) α

namespace Built

variable {α β γ : Type}

/-- Both parts; of two faults the earlier round counts, and in one round the first part. -/
def zipWith (f : α → β → γ) (a : Built α) (b : Built β) : Built γ :=
  match a, b with
  | .ok a, .ok b => .ok (f a b)
  | .error e, .ok _ => .error e
  | .ok _, .error e => .error e
  | .error e, .error e' => .error (if e'.1 < e.1 then e' else e)

def inRound (round : Nat) : Except ReadFault α → Built α
  | .ok a => .ok a
  | .error f => .error (round, f)

end Built

namespace Node

def tag : Node → Tag
  | .scalar t _ => t
  | .sequence t _ => t
  | .mapping t _ => t
  | .around isMapping _ => if isMapping then .map else .seq

mutual

def height : Node → Nat
  | .scalar _ _ => 1
  | .sequence _ items => itemsHeight items + 1
  | .mapping _ entries => entriesHeight entries + 1
  | .around _ _ => 1

def itemsHeight : List Node → Nat
  | [] => 0
  | n :: ns => max n.height (itemsHeight ns)

def entriesHeight : List (Node × Node) → Nat
  | [] => 0
  | (k, v) :: es => max (max k.height v.height) (entriesHeight es)

end

/-- What a mapping gets that merges one of those around it: nothing from itself, and itself again
from one further out. -/
def mergedAround (up : Nat) : List (Node × Node) :=
  if up = 0 then [] else [(.scalar .str "<<", .around true up)]

mutual

def mergeable : Node → Except ReadFault (List (Node × Node))
  | .mapping _ entries => (flatten entries).map fun r => r.1 ++ r.2
  | .around true up => .ok (mergedAround (up - 1))
  | _ => .error .malformed

/-- What a merge key adds: the entries of a mapping, or those of several, the last of them first. -/
def merged : Node → Except ReadFault (List (Node × Node))
  | .mapping _ entries => (flatten entries).map fun r => r.1 ++ r.2
  | .sequence _ items => mergedItems items
  | .around true up => .ok (mergedAround up)
  | .around false _ => .ok []
  | .scalar _ _ => .error .malformed

def mergedItems : List Node → Except ReadFault (List (Node × Node))
  | [] => .ok []
  | n :: ns =>
    match mergeable n, mergedItems ns with
    | .ok es, .ok more => .ok (more ++ es)
    | _, _ => .error .malformed

/-- The entries that merge keys add, and the others. A lone `=` is a key like any other. -/
def flatten : List (Node × Node) → Except ReadFault (List (Node × Node) × List (Node × Node))
  | [] => .ok ([], [])
  | (k, v) :: es =>
    match flatten es with
    | .error f => .error f
    | .ok (added, own) =>
      match k with
      | .scalar .merge _ => (merged v).map fun more => (more ++ added, own)
      | .scalar .value text => .ok (added, (.scalar .str text, v) :: own)
      | k => .ok (added, (k, v) :: own)

end

/-- The text of a scalar; a mapping with the key `=` stands for the value of that. -/
def scalarText : Node → Except ReadFault String
  | .scalar _ text => .ok text
  | .sequence _ _ | .around _ _ => .error .malformed
  | .mapping _ entries => ofEntries entries
where
  ofEntries : List (Node × Node) → Except ReadFault String
    | [] => .error .malformed
    | (k, v) :: es => if k.tag = .value then scalarText v else ofEntries es

end Node

namespace Scalar

def truth (s : String) : Except ReadFault Bool :=
  let word := String.ofList (s.toList.map Char.toLower)
  if ["yes", "true", "on"].contains word then .ok true
  else if ["no", "false", "off"].contains word then .ok false
  else .error .badWord

def orBad {α : Type} (r : Option α) : Except ReadFault α := r.elim (.error .badNumber) .ok

def sixties (groups : List Int) : Int := groups.foldl (fun n d => 60 * n + d) 0

def negate (negative : Bool) (n : Int) : Int := if negative then -n else n

def unsignedInt (body : List Char) : Except ReadFault Int :=
  match body with
  | [] => .error .emptyNumber
  | ['0'] => .ok 0
  | '0' :: 'b' :: ds => orBad (Numeral.intIn? 2 ds)
  | '0' :: 'x' :: ds => orBad (Numeral.intIn? 16 ds)
  | '0' :: _ => orBad (Numeral.intIn? 8 body)
  | _ =>
    if body.contains ':' then orBad (((Tag.parts body).mapM Numeral.int?).map sixties)
    else orBad (Numeral.int? body)

def signed? (cs : List Char) : Except ReadFault (Bool × List Char) :=
  if cs.isEmpty then .error .emptyNumber else .ok (Numeral.splitSign cs)

def int (s : String) : Except ReadFault Int :=
  match signed? (s.toList.filter (· != '_')) with
  | .error f => .error f
  | .ok (negative, body) => (unsignedInt body).map (negate negative)

/-- The sum of groups of base 60, given lowest first, from the power `base` on. -/
def sixtiesFloat : Nat → Binary64 → List Binary64 → Binary64
  | _, sum, [] => sum
  | base, sum, d :: ds => sixtiesFloat (base * 60) (sum.add (d.scaleBy base)) ds

def unsignedFloat (body : List Char) : Except ReadFault Binary64 :=
  if body == ".inf".toList then .ok (.infinite false)
  else if body == ".nan".toList then .ok .nan
  else if body.contains ':' then
    orBad (((Tag.parts body).mapM Numeral.float?).map fun ds => sixtiesFloat 1 .zero ds.reverse)
  else orBad (Numeral.float? body)

def float (s : String) : Except ReadFault Binary64 :=
  match signed? ((Text.lower s).toList.filter (· != '_')) with
  | .error f => .error f
  | .ok (negative, body) =>
    (unsignedFloat body).map fun x => if negative then x.neg else x

def binary (s : String) : Except ReadFault (List UInt8) :=
  if s.toList.all (·.toNat < 0x80) then (Text.Base64.decode? s.toList).elim (.error .malformed) .ok
  else .error .malformed

def micro (ds : List Char) : Nat :=
  let six := (ds.take 6).map fun d => d.toNat - 48
  Numeral.digitsValue (six ++ List.replicate (6 - six.length) 0)

def offsetMinutes : Bool × Nat × Nat → Int
  | (negative, h, m) => negate negative (60 * h + m : Nat)

/-- A date, or a point in time if there is a time of day. A line break at the end is passed over. -/
def timestamp (s : String) : Except ReadFault Value :=
  let cs := if s.toList.getLast? == some '\n' then s.toList.dropLast else s.toList
  match TimeParts.read? cs with
  | none => .error .noDate
  | some p =>
    match Date.ofParts? p.year p.month p.day with
    | none => .error .badDate
    | some d =>
      match p.clock with
      | none => .ok (.date d)
      | some (h, m, sec) =>
        let offset := p.offset.map offsetMinutes
        ((DateTime.ofParts? d h m sec (micro p.fraction) offset).map Value.dateTime).elim
          (.error .badDate) .ok

def value (tag : Tag) (text : String) : Except ReadFault Value :=
  match tag with
  | .null => .ok .null
  | .bool => (truth text).map .bool
  | .int => (int text).map .int
  | .float => (float text).map .float
  | .binary => (binary text).map .bytes
  | .timestamp => timestamp text
  | .str => .ok (.str text)
  | _ => .error .malformed

end Scalar

/-- The members of a set, each once, in order if they have one. -/
def Value.ofMembers (d : Dict Value Value) : Value :=
  let es := d.entries
  .set ((if Value.comparable (es.map (·.1)) then Value.sortEntries es else es).map (·.1))

namespace Construct

def nested (isMapping : Bool) : Nat → Value
  | 0 => .null
  | n + 1 =>
    if isMapping then .map [(.str "", nested isMapping n)] else .list [nested isMapping n]

/-- A list or mapping inside itself has no end. It is cut where it is nested deeper than anything
that is written. -/
def endless (isMapping : Bool) : Value := nested isMapping 1000

/-- The entries one after the other; what may not be a key is refused where it stands. -/
def entries (round : Nat) : List (Built Value × Built Value) → Built (Dict Value Value)
  | es => go es .empty
where
  go : List (Built Value × Built Value) → Dict Value Value → Built (Dict Value Value)
    | [], d => .ok d
    | (.ok k, v) :: es, d =>
      if k.isKey then
        match v with
        | .ok v => go es (d.put k v)
        | .error e => Built.zipWith (fun _ d => d) (.error e : Built Value) (go es d)
      else Built.zipWith (fun _ d => d) (.error (round, .malformed) : Built Value) (go es d)
    | (.error e, v) :: es, d =>
      Built.zipWith (fun _ d => d) (Built.zipWith (fun _ w => w) (.error e : Built Value) v) (go es d)

def items (vs : List (Built Value)) : Built (List Value) :=
  vs.foldr (Built.zipWith (· :: ·)) (.ok [])

/-- The value of a key. One that is a list or mapping is refused before what is in it. -/
def key (build : Node → Built Value) (round : Nat) (k : Node) : Built Value :=
  match build k with
  | .error e => .error (if k.tag.isCollection then (round, .malformed) else e)
  | v => v

def mapping (build : Node → Built Value) (round : Nat) : Node → Built (Dict Value Value)
  | .mapping _ es =>
    match Node.flatten es with
    | .error f => .error (round, f)
    | .ok (added, own) => entries round ((added ++ own).map fun e => (key build round e.1, build e.2))
  | _ => .error (round, .malformed)

/-- The value of a node with a tag of scalars. No mapping stands for a point in time. -/
def scalar (tag : Tag) : Node → Except ReadFault Value
  | .scalar _ text => Scalar.value tag text
  | n => n.scalarText.bind fun text =>
    if tag = .timestamp then .error .noText else Scalar.value tag text

def sequence (build : Node → Built Value) (round : Nat) : Node → Built Value
  | .sequence _ ns => (items (ns.map build)).map .list
  | _ => .error (round, .malformed)

def pair (build : Node → Built Value) (round : Nat) : Node → Built Value
  | .mapping _ [(k, v)] => Built.zipWith (fun k v => .tuple [k, v]) (build k) (build v)
  | _ => .error (round, .malformed)

def tagged (build : Node → Built Value) (round : Nat) (n : Node) : Built Value :=
  match n.tag with
  | .seq => sequence build (round + 1) n
  | .map => (mapping build (round + 1) n).map fun d => .map d.entries
  | .set => (mapping build (round + 1) n).map Value.ofMembers
  | .omap | .pairs => sequence (pair build (round + 1)) (round + 1) n
  | .merge | .value | .other => .error (round, .malformed)
  | t => Built.inRound round (scalar t n)

def value : Nat → Nat → Node → Built Value
  | 0, round, _ => .error (round, .malformed)
  | _ + 1, _, .around isMapping _ => .ok (endless isMapping)
  | fuel + 1, round, n => tagged (value fuel (round + 1)) round n

def ofNode (n : Node) : Except ReadFault Value :=
  match value n.height 0 n with
  | .ok v => .ok v
  | .error (_, f) => .error f

end Construct

def read (cs : List Char) : Except ReadFault Value :=
  match Node.ofText cs with
  | .error f => .error f
  | .ok none => .ok .null
  | .ok (some n) => Construct.ofNode n

end Runbook.Yaml
