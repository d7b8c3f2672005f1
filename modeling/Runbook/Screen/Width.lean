import Runbook.Screen.WidthTable

namespace Runbook.Screen

def inTable (ranges : List (Nat × Nat)) (c : Char) : Bool :=
  ranges.any fun r => r.1 ≤ c.toNat && c.toNat ≤ r.2

def charCells (c : Char) : Nat :=
  if 0x20 ≤ c.toNat && c.toNat < 0x7F then 1
  else if inTable zeroCellRanges c then 0
  else if inTable doubleCellRanges c then 2
  else 1

def joiner : Char := '\u200d'
def emojiSelector : Char := '\ufe0f'

/-- The cells of what follows, `last` being the latest character that took any. A joiner takes away
the character after it, and the emoji selector widens the one before it. -/
def cellsFrom (joined : Bool) (last : Option Char) : List Char → Nat
  | [] => 0
  | c :: cs =>
    if joined then cellsFrom false last cs
    else if c = joiner then cellsFrom true last cs
    else if c = emojiSelector then
      (if last.any (inTable selectableRanges) then 1 else 0) + cellsFrom false none cs
    else charCells c + cellsFrom false (if charCells c = 0 then last else some c) cs

def cells (cs : List Char) : Nat := cellsFrom false none cs

def spaces (n : Nat) : List Char := List.replicate n ' '

/-- As much of a text as fits; a blank stands for the half of a wide character. -/
def cutTo : Nat → List Char → List Char
  | _, [] => []
  | n, c :: cs =>
    if charCells c ≤ n then c :: cutTo (n - charCells c) cs
    else if n = 0 then []
    else [' ']

def fit (n : Nat) (cs : List Char) : List Char :=
  if cells cs ≤ n then cs ++ spaces (n - cells cs) else cutTo n cs

def crop (n : Nat) (cs : List Char) : List Char :=
  if cells cs ≤ n then cs else fit n cs

def ellipsize (n : Nat) (cs : List Char) : List Char :=
  if cells cs ≤ n then cs else fit (n - 1) cs ++ ['…']

end Runbook.Screen
