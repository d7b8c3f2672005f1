import Runbook.Json.Token

namespace Runbook.Yaml

inductive Tag where
  | null
  | bool
  | int
  | float
  | str
  | binary
  | timestamp
  | omap
  | pairs
  | set
  | seq
  | map
  | merge
  | value
  /-- A tag without a meaning here. -/
  | other
deriving DecidableEq, Repr

namespace Tag

def isCollection (t : Tag) : Bool := [seq, map, set, omap, pairs].contains t

def stem : String := "tag:yaml.org,2002:"

def names : List (String × Tag) := [
  ("null", null), ("bool", bool), ("int", int), ("float", float), ("str", str), ("binary", binary),
  ("timestamp", timestamp), ("omap", omap), ("pairs", pairs), ("set", set), ("seq", seq),
  ("map", map), ("merge", merge), ("value", value)]

def ofName (name : String) : Tag :=
  ((names.find? fun e => stem ++ e.1 == name).map (·.2)).getD other

def isDigit (c : Char) : Bool := '0' ≤ c && c ≤ '9'

def isDigitOr_ (c : Char) : Bool := isDigit c || c == '_'

def isTruth (s : String) : Bool :=
  ["yes", "Yes", "YES", "no", "No", "NO", "true", "True", "TRUE", "false", "False", "FALSE", "on",
    "On", "ON", "off", "Off", "OFF"].contains s

def isNull (s : String) : Bool := ["~", "null", "Null", "NULL", ""].contains s

def dropSign : List Char → List Char
  | '-' :: cs => cs
  | '+' :: cs => cs
  | cs => cs

/-- Whether a group of base 60 stands here: one digit, or two of which the first is below 6. -/
def isSixty : List Char → Bool
  | [a] => isDigit a
  | [a, b] => '0' ≤ a && a ≤ '5' && isDigit b
  | _ => false

/-- Whether there are groups of base 60, each behind a colon, and nothing else. -/
def isSixties : List (List Char) → Bool
  | [] => false
  | gs => gs.all isSixty

def parts (cs : List Char) : List (List Char) := Text.cutAt ':' cs

def startsNonzero : List Char → Bool
  | c :: _ => isDigit c && c != '0'
  | [] => false

def isInt (cs : List Char) : Bool :=
  let body := dropSign cs
  match body with
  | '0' :: 'b' :: ds => !ds.isEmpty && ds.all fun c => c == '0' || c == '1' || c == '_'
  | '0' :: 'x' :: ds =>
    !ds.isEmpty && ds.all fun c => (Json.Token.hexValue? c).isSome || c == '_'
  | ['0'] => true
  | '0' :: ds => ds.all fun c => ('0' ≤ c && c ≤ '7') || c == '_'
  | _ =>
    startsNonzero body &&
      match parts body with
      | [ds] => ds.all isDigitOr_
      | ds :: groups => ds.all isDigitOr_ && isSixties groups
      | [] => false

def isExponent : List Char → Bool
  | [] => true
  | e :: s :: ds => (e == 'e' || e == 'E') && (s == '-' || s == '+') && !ds.isEmpty && ds.all isDigit
  | _ => false

def isFraction (cs : List Char) : Bool := isExponent (cs.dropWhile isDigitOr_)

def startsDigit : List Char → Bool
  | c :: _ => isDigit c
  | [] => false

def isFloat (cs : List Char) : Bool :=
  let body := dropSign cs
  let named := String.ofList body
  if [".inf", ".Inf", ".INF"].contains named then true
  else if [".nan", ".NaN", ".NAN"].contains (String.ofList cs) then true
  else
    match cs with
    | '.' :: ds => startsDigit ds && isFraction ds
    | _ =>
      let (before, after) := Text.cutFirst '.' body
      match after with
      | none => false
      | some after =>
        startsDigit before &&
          match parts before with
          | [ds] => ds.all isDigitOr_ && isFraction after
          | ds :: groups => ds.all isDigitOr_ && isSixties groups && after.all isDigitOr_
          | [] => false

end Tag

structure TimeParts where
  year : Nat
  month : Nat
  day : Nat
  clock : Option (Nat × Nat × Nat)
  /-- Digits after the point of the seconds. -/
  fraction : List Char
  /-- Whether the offset is negative, its hours and its minutes. -/
  offset : Option (Bool × Nat × Nat)

namespace TimeParts

def number? (least most : Nat) (cs : List Char) : Option (Nat × List Char) :=
  let ds := (cs.take most).takeWhile Tag.isDigit
  if ds.length < least then none
  else some (ds.foldl (fun n d => 10 * n + (d.toNat - 48)) 0, cs.drop ds.length)

def after? (c : Char) : List Char → Option (List Char)
  | [] => none
  | x :: cs => if x = c then some cs else none

def isGap (c : Char) : Bool := c == ' ' || c == '\t'

def offset? (cs : List Char) : Option (Option (Bool × Nat × Nat)) :=
  match cs.dropWhile isGap with
  | [] => if cs.isEmpty then some none else none
  | ['Z'] => some (some (false, 0, 0))
  | s :: ds =>
    if s = '-' ∨ s = '+' then
      match number? 1 2 ds with
      | some (h, []) => some (some (s == '-', h, 0))
      | some (h, ':' :: ds) =>
        match number? 2 2 ds with
        | some (m, []) => some (some (s == '-', h, m))
        | _ => none
      | _ => none
    else none

def clock? (year month day : Nat) (cs : List Char) : Option TimeParts := do
  let (h, cs) ← number? 1 2 cs
  let cs ← after? ':' cs
  let (m, cs) ← number? 2 2 cs
  let cs ← after? ':' cs
  let (s, cs) ← number? 2 2 cs
  let (fraction, cs) :=
    match cs with
    | '.' :: cs => (cs.takeWhile Tag.isDigit, cs.dropWhile Tag.isDigit)
    | _ => ([], cs)
  let offset ← offset? cs
  return ⟨year, month, day, some (h, m, s), fraction, offset⟩

def gap? (cs : List Char) : Option (List Char) :=
  match cs with
  | 'T' :: cs => some cs
  | 't' :: cs => some cs
  | c :: cs => if isGap c then some (cs.dropWhile isGap) else none
  | [] => none

def read? (cs : List Char) : Option TimeParts := do
  let (year, cs) ← number? 4 4 cs
  let cs ← after? '-' cs
  let (month, cs) ← number? 1 2 cs
  let cs ← after? '-' cs
  let (day, cs) ← number? 1 2 cs
  if cs.isEmpty then return ⟨year, month, day, none, [], none⟩
  clock? year month day (← gap? cs)

end TimeParts

namespace Tag

/-- A date alone has two digits for month and day. -/
def isTimestamp (cs : List Char) : Bool :=
  match TimeParts.read? cs with
  | some p => p.clock.isSome || cs.length == 10
  | none => false

/-- The texts that have a tag of their own, for which there are no values. -/
def isMark (s : String) : Bool := ["!", "&", "*"].contains s

def ofLine (s : String) : Tag :=
  if isNull s then null
  else if isTruth s then bool
  else if isFloat s.toList then float
  else if isInt s.toList then int
  else if s == "<<" then merge
  else if s == "=" then value
  else if isMark s then other
  else if isTimestamp s.toList then timestamp
  else str

/-- The tag that a text has by its form. A line break at its end does not count, unless there is
nothing else. -/
def ofPlain (s : String) : Tag :=
  match s.toList.dropLast with
  | [] => ofLine s
  | cs => if s.toList.getLast? == some '\n' then ofLine (String.ofList cs) else ofLine s

end Tag

end Runbook.Yaml
