namespace Runbook.Text.Utf8

def byte (n : Nat) : UInt8 := UInt8.ofNat n

def encodeChar (c : Char) : List UInt8 :=
  let n := c.toNat
  if n < 0x80 then [byte n]
  else if n < 0x800 then [byte (0xC0 + n / 0x40), byte (0x80 + n % 0x40)]
  else if n < 0x10000 then
    [byte (0xE0 + n / 0x1000), byte (0x80 + n / 0x40 % 0x40), byte (0x80 + n % 0x40)]
  else
    [byte (0xF0 + n / 0x40000), byte (0x80 + n / 0x1000 % 0x40), byte (0x80 + n / 0x40 % 0x40),
      byte (0x80 + n % 0x40)]

def encode (cs : List Char) : List UInt8 := cs.flatMap encodeChar

/-- How many bytes follow a first byte, with the range of the second one. -/
def tail? (b : Nat) : Option (Nat × Nat × Nat) :=
  if 0xC2 ≤ b && b ≤ 0xDF then some (1, 0x80, 0xBF)
  else if b == 0xE0 then some (2, 0xA0, 0xBF)
  else if b == 0xED then some (2, 0x80, 0x9F)
  else if 0xE1 ≤ b && b ≤ 0xEF then some (2, 0x80, 0xBF)
  else if b == 0xF0 then some (3, 0x90, 0xBF)
  else if 0xF1 ≤ b && b ≤ 0xF3 then some (3, 0x80, 0xBF)
  else if b == 0xF4 then some (3, 0x80, 0x8F)
  else none

def firstBits (following b : Nat) : Nat :=
  match following with
  | 1 => b - 0xC0
  | 2 => b - 0xE0
  | _ => b - 0xF0

structure Pending where
  number : Nat
  needed : Nat
  low : Nat
  high : Nat

variable {α : Type}

/-- The characters that bytes stand for, with `onBad` in place of each longest piece that starts a
character and goes on wrongly. -/
def decodeWith (onBad : List α) (char : Char → α) (pending : Option Pending) : List UInt8 → List α
  | [] => if pending.isSome then onBad else []
  | b :: bs =>
    let n := b.toNat
    let fresh (_ : Unit) : List α :=
      if n < 0x80 then char (Char.ofNat n) :: decodeWith onBad char none bs
      else
        match tail? n with
        | some (needed, low, high) =>
          decodeWith onBad char (some ⟨firstBits needed n, needed, low, high⟩) bs
        | none => onBad ++ decodeWith onBad char none bs
    match pending with
    | none => fresh ()
    | some p =>
      if p.low ≤ n && n ≤ p.high then
        let number := p.number * 0x40 + (n - 0x80)
        if p.needed ≤ 1 then char (Char.ofNat number) :: decodeWith onBad char none bs
        else decodeWith onBad char (some ⟨number, p.needed - 1, 0x80, 0xBF⟩) bs
      else onBad ++ fresh ()

def decode? (bs : List UInt8) : Option (List Char) :=
  (decodeWith [none] some none bs).mapM id

/-- The text with a replacement character for each piece that is none. -/
def decodeLossy (bs : List UInt8) : List Char :=
  decodeWith [Char.ofNat 0xFFFD] id none bs

end Runbook.Text.Utf8
