import Runbook.Screen.Width
import Runbook.Text.Blank

namespace Runbook.Screen

structure Glyph where
  char : Char
  /-- It is in a style that stops who reads it. -/
  stops : Bool

namespace Glyph

def isBlank (g : Glyph) : Bool := Text.isBlank g.char

def withChar (g : Glyph) (c : Char) : Glyph := { g with char := c }

end Glyph

def plain (cs : List Char) : List Glyph := cs.map fun c => ⟨c, false⟩

def chars (gs : List Glyph) : List Char := gs.map (·.char)

/-- The line without its line breaks, tabs filled with blanks up to the next column of eight. -/
def expandTabs : Nat → List Glyph → List Glyph
  | _, [] => []
  | column, g :: gs =>
    if g.char = '\t' then
      let width := 8 - column % 8
      List.replicate width (g.withChar ' ') ++ expandTabs (column + width) gs
    else g :: expandTabs (column + charCells g.char) gs

/-- The words of a text, each with the blanks after it; blanks at the front go with the first. -/
def wordsFrom : Nat → List Glyph → List (List Glyph)
  | 0, _ => []
  | fuel + 1, gs =>
    let before := gs.takeWhile Glyph.isBlank
    let rest := gs.dropWhile Glyph.isBlank
    let word := rest.takeWhile (!Glyph.isBlank ·)
    let rest := rest.dropWhile (!Glyph.isBlank ·)
    if word.isEmpty then []
    else
      (before ++ word ++ rest.takeWhile Glyph.isBlank) ::
        wordsFrom fuel (rest.dropWhile Glyph.isBlank)

def words (gs : List Glyph) : List (List Glyph) := wordsFrom (gs.length + 1) gs

def chopFrom (width used : Nat) : List Glyph → List (List Glyph)
  | [] => [[]]
  | g :: gs =>
    let w := charCells g.char
    if width < used + w then
      match chopFrom width w gs with
      | p :: ps => [] :: (g :: p) :: ps
      | [] => [[], [g]]
    else
      match chopFrom width (used + w) gs with
      | p :: ps => (g :: p) :: ps
      | [] => [[g]]

def chop (width : Nat) (gs : List Glyph) : List (List Glyph) := chopFrom width 0 gs

/-- How the pieces of a text fill lines: pieces that go on one line are joined. -/
structure Filling where
  /-- Finished lines, latest first. -/
  lines : List (List Glyph)
  line : List Glyph
  used : Nat

namespace Filling

def newLine (f : Filling) (gs : List Glyph) (used : Nat) : Filling :=
  if f.lines.isEmpty && f.line.isEmpty then ⟨f.lines, gs, used⟩ else ⟨f.line :: f.lines, gs, used⟩

def addPieces : Filling → List (List Glyph) → Filling
  | f, [] => f
  | f, p :: ps => addPieces (f.newLine p (cells (chars p))) ps

def addWord (width : Nat) (fold : Bool) (f : Filling) (word : List Glyph) : Filling :=
  let length := cells (Text.dropEndWhile Text.isBlank (chars word))
  let all := cells (chars word)
  if f.used + length ≤ width then { f with line := f.line ++ word, used := f.used + all }
  else if width < length then
    if fold then f.addPieces (chop width word) else f.newLine word all
  else if f.used ≠ 0 then f.newLine word all
  else { f with line := f.line ++ word }

end Filling

/-- Drop blanks at the end of a line as long as the line has more characters than the width. -/
def dropOverhang (width : Nat) (gs : List Glyph) : List Glyph :=
  let blanks := (gs.reverse.takeWhile Glyph.isBlank).length
  gs.take (gs.length - min blanks (gs.length - width))

def wrapLine (width : Nat) (fold : Bool) (gs : List Glyph) : List (List Glyph) :=
  let gs := if gs.any (·.char == '\t') then expandTabs 0 gs else gs
  match words gs with
  | [] => [dropOverhang width gs]
  | ws =>
    let f := ws.foldl (Filling.addWord width fold) ⟨[], [], 0⟩
    (f.line :: f.lines).reverse.map (dropOverhang width)

def linesOf : List Glyph → List (List Glyph)
  | [] => [[]]
  | g :: gs =>
    if g.char = '\n' then [] :: linesOf gs
    else
      match linesOf gs with
      | [] => [[g]]
      | l :: ls => (g :: l) :: ls

def cropGlyphs (width : Nat) (gs : List Glyph) : List Glyph :=
  List.zipWith Glyph.withChar gs (crop width (chars gs))

def wrap (width : Nat) (gs : List Glyph) : List (List Glyph) :=
  (linesOf gs).flatMap fun line => (wrapLine width true line).map (cropGlyphs width)

/-- The lines of a text in a cell, where lines that are too long end with an ellipsis. -/
def wrapCell (width : Nat) (cs : List Char) : List (List Char) :=
  (linesOf (plain cs)).flatMap fun line =>
    (wrapLine width false line).map fun gs => ellipsize width (chars gs)

end Runbook.Screen
