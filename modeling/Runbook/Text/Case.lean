import Runbook.Text.CaseTable

namespace Runbook.Text

def shifted (runs : List CaseRun) (c : Char) : Char :=
  match runs.find? (·.covers c.toNat) with
  | some r => Char.ofNat (c.toNat + r.shift).toNat
  | none => c

def otherCase (long : List (Nat × List Nat)) (runs : List CaseRun) (c : Char) : List Char :=
  match long.find? (·.1 == c.toNat) with
  | some (_, ns) => ns.map Char.ofNat
  | none => [shifted runs c]

def lowerChar (c : Char) : List Char :=
  if c.toNat < 0x80 then [c.toLower] else otherCase lowerLong lowerRuns c

def upperChar (c : Char) : List Char :=
  if c.toNat < 0x80 then [c.toUpper] else otherCase upperLong upperRuns c

def inRanges (ranges : List (Nat × Nat)) (c : Char) : Bool :=
  ranges.any fun r => r.1 ≤ c.toNat && c.toNat ≤ r.2

/-- Whether the nearest letter that is not looked through has case. -/
def meetsCased (cs : List Char) : Bool :=
  match cs.find? (!inRanges caseIgnorableRanges ·) with
  | some c => inRanges casedRanges c
  | none => false

/-- A capital sigma at the end of a word becomes the final sigma; `before` is what precedes the
rest, nearest first. -/
def lowerFrom (before : List Char) : List Char → List Char
  | [] => []
  | c :: cs =>
    let here :=
      if c = 'Σ' then [if meetsCased before && !meetsCased cs then 'ς' else 'σ'] else lowerChar c
    here ++ lowerFrom (c :: before) cs

def lower (s : String) : String :=
  String.ofList (lowerFrom [] s.toList)

def upper (s : String) : String :=
  String.ofList (s.toList.flatMap upperChar)

end Runbook.Text
