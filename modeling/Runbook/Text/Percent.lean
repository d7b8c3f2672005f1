import Runbook.Text.Utf8

namespace Runbook.Text.Percent

def upperHexDigit (n : Nat) : Char :=
  if n < 10 then Char.ofNat (48 + n) else Char.ofNat (55 + n)

def encodeByte (b : UInt8) : List Char :=
  ['%', upperHexDigit (b.toNat / 16), upperHexDigit (b.toNat % 16)]

def encode (keep : Char → Bool) (cs : List Char) : List Char :=
  cs.flatMap fun c => if keep c then [c] else (Utf8.encodeChar c).flatMap encodeByte

def isUnreserved (c : Char) : Bool :=
  c.isAlphanum || c == '-' || c == '.' || c == '_' || c == '~'

/-- A name or value of a form, where a plus sign stands for a blank. -/
def encodeField (cs : List Char) : List Char :=
  cs.flatMap fun c => if c = ' ' then ['+'] else encode isUnreserved [c]

def encodeFields (fields : List (String × String)) : String :=
  "&".intercalate (fields.map fun e =>
    String.ofList (encodeField e.1.toList ++ '=' :: encodeField e.2.toList))

def hexValue? (c : Char) : Option Nat :=
  if '0' ≤ c ∧ c ≤ '9' then some (c.toNat - 48)
  else if 'a' ≤ c ∧ c ≤ 'f' then some (c.toNat - 87)
  else if 'A' ≤ c ∧ c ≤ 'F' then some (c.toNat - 55)
  else none

def decodeBytes : List Char → List UInt8
  | [] => []
  | '%' :: a :: b :: cs =>
    match hexValue? a, hexValue? b with
    | some x, some y => UInt8.ofNat (16 * x + y) :: decodeBytes cs
    | _, _ => Utf8.encodeChar '%' ++ decodeBytes (a :: b :: cs)
  | c :: cs => Utf8.encodeChar c ++ decodeBytes cs

def decode (cs : List Char) : List Char := Utf8.decodeLossy (decodeBytes cs)

end Runbook.Text.Percent
