import Runbook.Screen.Wrap

namespace Runbook.Screen

def bar (n : Nat) : List Char := List.replicate n '─'

def titleText (cs : List Char) : List Char :=
  chars (expandTabs 0 (plain (cs.map fun c => if c = '\n' then ' ' else c)))

def rule (width : Nat) (title : List Char) : List Char :=
  if title.isEmpty || width ≤ 4 then bar width
  else
    let title := ellipsize (width - 4) (titleText title)
    let side := (width - cells title) / 2
    let right := width - (side - 1) - cells title
    fit width (bar (side - 1) ++ [' '] ++ title ++ [' '] ++ bar (min right (side + 1)))

def boxed (width padding : Nat) (cs : List Char) : List Char :=
  ['│'] ++ spaces padding ++ fit (width - 2 - 2 * padding) cs ++ spaces padding ++ ['│']

def boxTop (width : Nat) (title : List Char) : List Char :=
  if width ≤ 4 then ['╭'] ++ bar (width - 2) ++ ['╮']
  else
    let title := crop (width - 4) title
    let excess := width - 4 - cells title
    ['╭', '─'] ++ bar (excess / 2) ++ title ++ bar (excess - excess / 2) ++ ['─', '╮']

def boxBottom (width : Nat) : List Char := ['╰'] ++ bar (width - 2) ++ ['╯']

def box (width padding : Nat) (title : List Char) (lines : List (List Char)) : List (List Char) :=
  boxTop width title :: (lines.map (boxed width padding) ++ [boxBottom width])

def halfEven (n : Nat) : Nat :=
  if n % 2 = 0 then n / 2 else if n / 2 % 2 = 0 then n / 2 else n / 2 + 1

/-- The widths of the two columns of a table with this much room: 18 and 10 if they fit, else the
excess is taken from both. -/
def columnWidths (room : Nat) : Nat × Nat :=
  let first := min 18 room
  let second := min 10 room
  let excess := first + second - room
  let fromFirst := min first (halfEven excess)
  if first + second ≤ room then (first, second)
  else (first - fromFirst, second - min second (excess - fromFirst))

def leftCell (width : Nat) (cs : List Char) : List (List Char) :=
  (wrapCell (width - 2) cs).map fun line => [' '] ++ fit (width - 2) line ++ [' ']

def rightCell (width : Nat) (cs : List Char) : List (List Char) :=
  (wrapCell (width - 2) cs).map fun line =>
    let line := ellipsize (width - 2) (Text.dropEndWhile Text.isBlank line)
    [' '] ++ spaces (width - 2 - cells line) ++ line ++ [' ']

def sideBySide (left right : List (List Char)) : List (List Char) :=
  List.zipWith (fun a b => [' '] ++ a ++ [' '] ++ b ++ [' ']) left right

/-- A table of two columns without lines except under its head. -/
def table (width : Nat) (head : List Char × List Char) (rows : List (List Char × List Char)) :
    List (List Char) :=
  let (first, second) := columnWidths (width - 3)
  let blank := spaces (first + second + 3)
  let row (r : List Char × List Char) := sideBySide (leftCell first r.1) (rightCell second r.2)
  [blank] ++ row head ++
    [[' '] ++ List.replicate (first + second + 1) '━' ++ [' ']] ++ rows.flatMap row ++ [blank]

end Runbook.Screen
