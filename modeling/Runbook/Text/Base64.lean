namespace Runbook.Text.Base64

def symbols : List Char :=
  "ABCDEFGHIJKLMNOPQRSTUVWXYZabcdefghijklmnopqrstuvwxyz0123456789+/".toList

def symbol (n : Nat) : Char := symbols.getD n 'A'

def encode : List UInt8 → List Char
  | [] => []
  | [a] =>
    let n := a.toNat * 16
    [symbol (n / 64), symbol (n % 64), '=', '=']
  | [a, b] =>
    let n := (a.toNat * 256 + b.toNat) * 4
    [symbol (n / 4096), symbol (n / 64 % 64), symbol (n % 64), '=']
  | a :: b :: c :: bs =>
    let n := (a.toNat * 256 + b.toNat) * 256 + c.toNat
    symbol (n / 262144) :: symbol (n / 4096 % 64) :: symbol (n / 64 % 64) :: symbol (n % 64) ::
      encode bs

def group : List Nat → List UInt8
  | [a, b, c, d] =>
    let n := ((a * 64 + b) * 64 + c) * 64 + d
    [UInt8.ofNat (n / 65536), UInt8.ofNat (n / 256 % 256), UInt8.ofNat (n % 256)]
  | [a, b, c] =>
    let n := ((a * 64 + b) * 64 + c) / 4
    [UInt8.ofNat (n / 256), UInt8.ofNat (n % 256)]
  | [a, b] => [UInt8.ofNat ((a * 64 + b) / 16)]
  | _ => []

/-- Read groups of four symbols; other characters are passed over. `seen` holds the values of the
open group and `pads` the padding signs that have followed it. A group of two or three symbols has
to be padded, and padding that completes a group ends the text. -/
def decodeFrom (seen : List Nat) (pads : Nat) : List Char → Option (List UInt8)
  | [] => if seen.isEmpty then some [] else none
  | c :: cs =>
    if c = '=' then
      if 2 ≤ seen.length && 4 ≤ seen.length + (pads + 1) then some (group seen)
      else decodeFrom seen (if 2 ≤ seen.length then pads + 1 else pads) cs
    else
      match symbols.idxOf? c with
      | none => decodeFrom seen pads cs
      | some v =>
        if seen.length = 3 then (decodeFrom [] 0 cs).map (group (seen ++ [v]) ++ ·)
        else decodeFrom (seen ++ [v]) 0 cs

def decode? (cs : List Char) : Option (List UInt8) := decodeFrom [] 0 cs

end Runbook.Text.Base64
