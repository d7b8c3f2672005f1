namespace Runbook

/-- A decimal number `digits * 10 ^ exponent`. -/
structure Decimal where
  digits : Nat
  exponent : Int
deriving DecidableEq, Repr

/-- The finite number `significand * 2 ^ scale * 2 ^ -1074`, in the one form it has. -/
structure Magnitude where
  significand : Nat
  scale : Nat
  fits : significand < Nat.pow 2 53
  normal : scale = 0 ∨ Nat.pow 2 52 ≤ significand
  inRange : scale ≤ 2045
deriving DecidableEq

/-- A binary64 number. All its not-a-number words are one value. -/
inductive Binary64 where
  | nan
  | infinite (negative : Bool)
  | finite (negative : Bool) (magnitude : Magnitude)
deriving DecidableEq

namespace Magnitude

def zero : Magnitude := ⟨0, 0, by decide, .inl rfl, by decide⟩

instance : Inhabited Magnitude := ⟨zero⟩

/-- How many times `2 ^ -1074` the number is. -/
def units (m : Magnitude) : Nat := m.significand * Nat.pow 2 m.scale

def isZero (m : Magnitude) : Bool := m.significand == 0

def unitsPerOne : Nat := Nat.pow 2 1074

def roundQuotient (num den : Nat) : Nat :=
  let q := num / den
  let r := num % den
  if 2 * r < den then q
  else if den < 2 * r then q + 1
  else if q % 2 = 0 then q else q + 1

def ofParts? (significand scale : Nat) : Option Magnitude :=
  if h : significand < Nat.pow 2 53 ∧ (scale = 0 ∨ Nat.pow 2 52 ≤ significand) ∧ scale ≤ 2045 then
    some ⟨significand, scale, h.1, h.2.1, h.2.2⟩
  else none

/-- The nearest magnitude to `num / den`; `none` past the largest one. -/
def ofRatio? (num den : Nat) : Option Magnitude :=
  let n := num * unitsPerOne
  let scale := (n / den).log2 - 52
  let significand := roundQuotient n (den * Nat.pow 2 scale)
  if significand = Nat.pow 2 53 then ofParts? (Nat.pow 2 52) (scale + 1) else ofParts? significand scale

/-- Exponents past `10 ^ 400` on either side are infinite or zero without being computed. -/
def ofDecimal? (d : Decimal) : Option Magnitude :=
  if d.digits = 0 then some zero
  else
    let top := d.digits.log2 / 3 + 1 + d.exponent
    if d.exponent > 400 then none
    else if top < -400 then some zero
    else if 0 ≤ d.exponent then ofRatio? (d.digits * Nat.pow 10 d.exponent.toNat) 1
    else ofRatio? d.digits (Nat.pow 10 (-d.exponent).toNat)

def toNat? (m : Magnitude) : Option Nat :=
  if m.units % unitsPerOne = 0 then some (m.units / unitsPerOne) else none

end Magnitude

namespace Binary64

def ofMagnitude (negative : Bool) : Option Magnitude → Binary64
  | some m => .finite negative m
  | none => .infinite negative

def ofDecimal (negative : Bool) (d : Decimal) : Binary64 :=
  ofMagnitude negative (Magnitude.ofDecimal? d)

def zero : Binary64 := .finite false .zero

instance : Inhabited Binary64 := ⟨zero⟩

def neg : Binary64 → Binary64
  | .nan => .nan
  | .infinite s => .infinite !s
  | .finite s m => .finite (!s) m

def units? : Binary64 → Option Int
  | .finite s m => some (if s then -(m.units : Int) else m.units)
  | _ => none

def ofUnits (n : Int) (den : Nat) : Binary64 :=
  ofMagnitude (n < 0) (Magnitude.ofRatio? n.natAbs (Magnitude.unitsPerOne * den))

/-- The sum of two finite numbers, rounded once; other operands dominate. -/
def add (a b : Binary64) : Binary64 :=
  match a, b with
  | .finite s _, .finite t _ =>
    match a.units?, b.units? with
    | some m, some n => if m + n = 0 then .finite (s && t) .zero else ofUnits (m + n) 1
    | _, _ => .nan
  | .infinite s, .infinite t => if s = t then a else .nan
  | .nan, _ => .nan
  | _, .nan => .nan
  | .infinite _, _ => a
  | _, .infinite _ => b

def scaleBy (a : Binary64) (k : Nat) : Binary64 :=
  match a with
  | .finite s m => ofMagnitude s (Magnitude.ofRatio? (m.units * k) Magnitude.unitsPerOne)
  | _ => a

def toInt? : Binary64 → Option Int
  | .finite s m => m.toNat?.map fun n => if s then -(n : Int) else n
  | _ => none

/-- Equality of values: zeros of both signs are equal, and so that keys can be found again the
not-a-number is equal to itself. -/
def same (a b : Binary64) : Bool :=
  match a, b with
  | .finite s m, .finite t n => (m.isZero && n.isZero) || (s == t && decide (m = n))
  | _, _ => decide (a = b)

/-- Order of values, the not-a-number being below nothing. -/
def less : Binary64 → Binary64 → Bool
  | .nan, _ => false
  | _, .nan => false
  | .infinite s, .infinite t => s && !t
  | .infinite s, _ => s
  | _, .infinite t => !t
  | a, b => (a.units?.getD 0) < (b.units?.getD 0)

end Binary64

end Runbook
