import Runbook.Text.Utf8
import Runbook.Value

namespace Runbook.Yaml

def isSurrogate (n : Nat) : Bool := 0xD800 ≤ n && n < 0xE000

/-- A YAML text has no such character as it is, but an escape may name it. -/
def surrogateMark : Char := '\uFFFF'

/-- What stands in a text for the code point of this number. A surrogate is no character: one of
private use stands for it, behind a mark. The mark itself stands behind another one. -/
def ofCode (n : Nat) : List Char :=
  if isSurrogate n then [surrogateMark, Char.ofNat (n + 0x800)]
  else if n = surrogateMark.toNat then [surrogateMark, surrogateMark]
  else [Char.ofNat n]

def markedCode (c : Char) : Nat := if c = surrogateMark then c.toNat else c.toNat - 0x800

def codes : List Char → List Nat
  | [] => []
  | [c] => [c.toNat]
  | c :: d :: cs =>
    if c = surrogateMark then markedCode d :: codes cs else c.toNat :: codes (d :: cs)

def encodeCode (n : Nat) : List UInt8 :=
  if isSurrogate n then
    [Text.Utf8.byte (0xE0 + n / 0x1000), Text.Utf8.byte (0x80 + n / 0x40 % 0x40),
      Text.Utf8.byte (0x80 + n % 0x40)]
  else Text.Utf8.encodeChar (Char.ofNat n)

/-- Code points as data. With a surrogate among them they are no text, and are bytes instead, which
are the bytes of no text either. -/
def ofCodes (ns : List Nat) : Value :=
  if ns.any isSurrogate then .bytes (ns.flatMap encodeCode)
  else .str (String.ofList (ns.map Char.ofNat))

mutual

def unmarked : Value → Value
  | .str s => ofCodes (codes s.toList)
  | .list vs => .list (unmarkedItems vs)
  | .tuple vs => .tuple (unmarkedItems vs)
  | .set vs => .set (unmarkedItems vs)
  | .map es => .map (unmarkedEntries es)
  | v => v

def unmarkedItems : List Value → List Value
  | [] => []
  | v :: vs => unmarked v :: unmarkedItems vs

def unmarkedEntries : List (Value × Value) → List (Value × Value)
  | [] => []
  | (k, v) :: es => (unmarked k, unmarked v) :: unmarkedEntries es

end

end Runbook.Yaml
