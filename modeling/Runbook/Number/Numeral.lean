import Runbook.Number.Binary64
import Runbook.Text.Blank
import Runbook.Text.Digit

namespace Runbook.Numeral

open Text

/-- Longest decimal numeral of a whole number that is read or written. -/
def digitLimit : Nat := 4300

def digitsValue (ds : List Nat) : Nat :=
  ds.foldl (fun n d => 10 * n + d) 0

/-- Remove the underscores, each of which has to stand between two digits. -/
def dropUnderscores (afterDigit : Bool) : List Char → Option (List Char)
  | [] => some []
  | '_' :: d :: cs =>
    if afterDigit && (decimalValue? d).isSome then
      (dropUnderscores true cs).map (d :: ·)
    else none
  | '_' :: [] => none
  | c :: cs => (dropUnderscores (decimalValue? c).isSome cs).map (c :: ·)

def splitSign : List Char → Bool × List Char
  | '-' :: cs => (true, cs)
  | '+' :: cs => (false, cs)
  | cs => (false, cs)

def signed (negative : Bool) (n : Nat) : Int :=
  if negative then -(n : Int) else n

/-- The value of a run of decimal digits that is neither empty nor past the limit. -/
def digits? (cs : List Char) : Option Nat :=
  if cs.isEmpty || digitLimit < cs.length then none
  else (cs.mapM decimalValue?).map digitsValue

def int? (cs : List Char) : Option Int :=
  let (negative, body) := splitSign (strip cs)
  match dropUnderscores false body with
  | none => none
  | some ds => (digits? ds).map (signed negative)

def digitIn? (base : Nat) (c : Char) : Option Nat :=
  let value? :=
    if 'a' ≤ c ∧ c ≤ 'z' then some (c.toNat - 87)
    else if 'A' ≤ c ∧ c ≤ 'Z' then some (c.toNat - 55)
    else decimalValue? c
  value?.filter (· < base)

/-- The mark that may stand in front of a numeral of base 2, 8 or 16. -/
def dropBaseMark (base : Nat) : List Char → List Char
  | '0' :: m :: cs =>
    let marks := if base = 2 then ['b', 'B'] else if base = 8 then ['o', 'O'] else ['x', 'X']
    if marks.contains m then cs else '0' :: m :: cs
  | cs => cs

def intIn? (base : Nat) (cs : List Char) : Option Int :=
  let (negative, body) := splitSign (strip cs)
  match (dropBaseMark base body).mapM (digitIn? base) with
  | none => none
  | some [] => none
  | some ds => some (signed negative (ds.foldl (fun n d => base * n + d) 0))

def spanDigits : List Char → List Nat × List Char
  | [] => ([], [])
  | c :: cs =>
    match decimalValue? c with
    | some d => let (ds, rest) := spanDigits cs; (d :: ds, rest)
    | none => ([], c :: cs)

def exponent? : List Char → Option Int
  | [] => some 0
  | c :: cs =>
    if c = 'e' ∨ c = 'E' then
      let (negative, body) := splitSign cs
      match spanDigits body with
      | (d :: ds, []) => some (signed negative (digitsValue (d :: ds)))
      | _ => none
    else none

/-- Digits with at most one point among them and an exponent after them. -/
def decimal? (cs : List Char) : Option Decimal :=
  let (whole, rest) := spanDigits cs
  let (fraction, rest) :=
    match rest with
    | '.' :: more => spanDigits more
    | _ => ([], rest)
  if whole.isEmpty && fraction.isEmpty then none
  else (exponent? rest).map fun e => ⟨digitsValue (whole ++ fraction), e - fraction.length⟩

def named? (cs : List Char) : Option Binary64 :=
  match String.ofList (cs.map Char.toLower) with
  | "inf" => some (.infinite false)
  | "infinity" => some (.infinite false)
  | "nan" => some .nan
  | _ => none

def float? (cs : List Char) : Option Binary64 :=
  let (negative, body) := splitSign (strip cs)
  match named? body with
  | some x => some (if negative then x.neg else x)
  | none =>
    match dropUnderscores false body with
    | none => none
    | some ds => (decimal? ds).map (Binary64.ofDecimal negative)

end Runbook.Numeral
