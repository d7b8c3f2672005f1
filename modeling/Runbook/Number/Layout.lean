import Runbook.Number.Binary64

namespace Runbook

def natDigits (n : Nat) : List Char := Nat.toDigits 10 n

def intDigits (n : Int) : List Char :=
  if n < 0 then '-' :: natDigits n.natAbs else natDigits n.natAbs

namespace Decimal

def trim : Nat → Decimal → Decimal
  | 0, d => d
  | fuel + 1, d =>
    if d.digits ≠ 0 ∧ d.digits % 10 = 0 then trim fuel ⟨d.digits / 10, d.exponent + 1⟩ else d

end Decimal

namespace Magnitude

/-- The least `j` counted from `from` with `1 ≤ num * 10 ^ j / den`. -/
def leadingZeros (num den : Nat) : Nat → Nat → Nat
  | 0, j => j
  | fuel + 1, j => if den ≤ num * Nat.pow 10 j then j else leadingZeros num den fuel (j + 1)

/-- The `k` with `10 ^ (k - 1) ≤ m < 10 ^ k`, for `m` not zero. -/
def decimalPlaces (m : Magnitude) : Int :=
  let whole := m.units / unitsPerOne
  if whole ≠ 0 then (natDigits whole).length
  else 1 - (leadingZeros m.units unitsPerOne 330 1 : Int)

def onGrid (m : Magnitude) (p : Int) : Nat × Nat :=
  if 0 ≤ p then (m.units, unitsPerOne * Nat.pow 10 p.toNat)
  else (m.units * Nat.pow 10 (-p).toNat, unitsPerOne)

def readsBack (m : Magnitude) (d : Decimal) : Bool :=
  decide (ofDecimal? d = some m)

/-- The neighbour of `m` on the grid of `10 ^ p` that reads back, the nearer one if both do, the
even one at the same distance. -/
def onGrid? (m : Magnitude) (p : Int) : Option Decimal :=
  let (num, den) := m.onGrid p
  let low := num / den
  let below : Decimal := ⟨low, p⟩
  let above : Decimal := ⟨low + 1, p⟩
  let first := if roundQuotient num den = low then below else above
  let second := if roundQuotient num den = low then above else below
  if m.readsBack first then some first
  else if m.readsBack second then some second
  else none

/-- The first hit on ever finer grids. -/
def searchGrids (m : Magnitude) (places : Int) : Nat → Nat → Option Decimal
  | 0, _ => none
  | fuel + 1, n =>
    match m.onGrid? (places - n) with
    | some d => some d
    | none => searchGrids m places fuel (n + 1)

def exactDecimal (m : Magnitude) : Decimal := ⟨m.units * Nat.pow 5 1074, -1074⟩

/-- The fewest digits that read back as `m`. -/
def shortest (m : Magnitude) : Decimal :=
  if m.isZero then ⟨0, 0⟩
  else
    match searchGrids m m.decimalPlaces 17 1 with
    | some d => d.trim 20
    | none => m.exactDecimal

end Magnitude

structure NumberLayout where
  /-- The least and greatest exponent of the leading digit that is written without an exponent. -/
  lowest : Int
  highest : Int
  /-- Digits that an exponent has at least. -/
  exponentDigits : Nat
  /-- Whether one digit before an exponent is followed by `.0`. -/
  pointBeforeExponent : Bool
  nan : String
  infinity : String

namespace NumberLayout

def zeros (n : Nat) : List Char := List.replicate n '0'

def exponentText (l : NumberLayout) (e : Int) : List Char :=
  let ds := natDigits e.natAbs
  (if e < 0 then '-' else '+') :: (zeros (l.exponentDigits - ds.length) ++ ds)

def magnitudeText (l : NumberLayout) (m : Magnitude) : List Char :=
  let d := m.shortest
  let ds := natDigits d.digits
  let lead := d.exponent + ds.length - 1
  if m.isZero then ['0', '.', '0']
  else if l.lowest ≤ lead ∧ lead ≤ l.highest then
    if 0 ≤ d.exponent then ds ++ zeros d.exponent.toNat ++ ['.', '0']
    else if 0 ≤ lead then ds.take (lead.toNat + 1) ++ '.' :: ds.drop (lead.toNat + 1)
    else '0' :: '.' :: (zeros (-lead - 1).toNat ++ ds)
  else
    let fraction := ds.drop 1
    let tail :=
      if fraction.isEmpty then (if l.pointBeforeExponent then ['.', '0'] else []) else '.' :: fraction
    ds.take 1 ++ tail ++ 'e' :: l.exponentText lead

def text (l : NumberLayout) : Binary64 → String
  | .nan => l.nan
  | .infinite s => (if s then "-" else "") ++ l.infinity
  | .finite s m => String.ofList ((if s then ['-'] else []) ++ l.magnitudeText m)

end NumberLayout

end Runbook
