import Runbook.Plan
import Runbook.Screen.Layout
import Runbook.Screen.Markup

namespace Runbook.Screen

open Markup (escape styled)

def ofLines (lines : List (List Char)) : String :=
  String.ofList (lines.flatMap fun line => line ++ ['\n'])

def blankLine : String := "\n"

namespace Markup

namespace Shown

def stops (s : Shown) : List Span := s.spans.filter fun x => Style.stops x.style

def glyphs (s : Shown) : List Glyph :=
  let stops := s.stops
  s.text.mapIdx fun i c => ⟨c, stops.any fun x => x.start ≤ i && i < x.stop⟩

/-- Whether a style of no characters at this place is still there in the lines. It is lost where a
text is cut. -/
def keeps (s : Shown) (lines : List (List Glyph)) (place : Nat) : Bool :=
  match lines with
  | [line] =>
    !s.text.any (fun c => c == '\n' || c == '\t') &&
      (place < line.length || line.length = s.text.length)
  | _ => false

/-- The lines of a text, unless a style in them stops who reads it. -/
def lines (width : Nat) (s : Shown) : Except Fault (List (List Char)) :=
  let lines := wrap width s.glyphs
  if lines.any (·.any (·.stops)) || s.stops.any (fun x => x.start = x.stop && s.keeps lines x.start) then
    .error (.data .value)
  else .ok (lines.map chars)

end Shown

end Markup

/-- Where texts are shown. -/
structure Console where
  width : Nat
  /-- The names of characters that are known there. -/
  names : List Char → Bool

def print (k : Console) (markup : List Char) : Except Fault String :=
  match Markup.render k.names markup with
  | .error f => .error f
  | .ok shown => (shown.lines k.width).map ofLines

def printRule (k : Console) (markup : List Char) : Except Fault String :=
  (Markup.render k.names markup).map fun shown => ofLines [rule k.width shown.text]

/-- A text of at most `most` characters. A negative number counts from the end of the text. -/
def shorten (text : String) (most : Int) : String :=
  let cs := text.toList
  if (cs.length : Int) ≤ most then text
  else if 0 ≤ most then String.ofList (cs.take most.toNat ++ ['…'])
  else String.ofList (cs.take ((cs.length : Int) + most).toNat ++ ['…'])

def suiteStart (k : Console) (name : String) (parent : Option String) : Except Fault String :=
  let via :=
    match parent with
    | some p => if p.isEmpty then [] else ' ' :: styled "dim" ("(via ".toList ++ (escape p ++ [')']))
    | none => []
  (printRule k (styled "cyan" ("SUITE ".toList ++ escape name) ++ via)).map (blankLine ++ ·)

/-- A path that is no text cannot be shown. -/
def pathText : Value → Except Fault String
  | .str s => .ok s
  | _ => .error (.data .kind)

def padEnd (n : Nat) (cs : List Char) : List Char := cs ++ spaces (n - cs.length)

def statusText (r : Run) : List Char := (r.response.elim "—" fun a => toString a.status).toList

def stepResult (k : Console) (r : Run) : Except Fault String :=
  match pathText r.path with
  | .error f => .error f
  | .ok path =>
    let mark := if r.error.isNone then styled "bold green" ['✓'] else styled "bold red" ['✗']
    let method := styled "bold white" (padEnd 6 (Text.upper r.method).toList)
    let name := styled "dim" (escape r.name ++ (" → ".toList ++ statusText r))
    print k (spaces 2 ++ (mark ++ ' ' :: (method ++ ' ' :: (escape path ++ (spaces 2 ++ name)))))

def skipping (k : Console) (count : Int) : Except Fault String :=
  print k (spaces 2 ++
    styled "yellow" ("↳ Skipping ".toList ++ ((toString count).toList ++ " test(s)…".toList)))

/-- What has been shown, and why it went no further. -/
structure Printed where
  text : String
  fault : Option Fault

def joined : List (Except Fault String) → Printed
  | [] => ⟨"", none⟩
  | x :: xs =>
    match x with
    | .error f => ⟨"", some f⟩
    | .ok s => { joined xs with text := s ++ (joined xs).text }

def runTitle (k : Console) (r : Run) : Except Fault String :=
  match pathText r.path with
  | .error f => .error f
  | .ok path => print k (styled "cyan" (escape path ++ (": ".toList ++ escape r.name)))

def mismatch (k : Console) (r : Run) : List (Except Fault String) :=
  match r.schemaError with
  | none => []
  | some m => [runTitle k r, print k (styled "yellow" (escape m))]

def failure (k : Console) (r : Run) : List (Except Fault String) :=
  match r.responseError with
  | none => []
  | some f =>
    [runTitle k r] ++
      (r.response.elim [] fun a =>
        [print k (styled "red" ("Response Status Code: ".toList ++ (toString a.status).toList))]) ++
      [print k (styled "red" (escape (shorten f.message 2000)))]

def errors (k : Console) (runs : List Run) : Printed :=
  joined ([.ok blankLine, printRule k (styled "cyan" "SchemaMismatches".toList)] ++
    runs.flatMap (mismatch k) ++ [printRule k (styled "cyan" "Errors".toList)] ++
    runs.flatMap (failure k) ++ [.ok (ofLines [rule k.width []])])

def countRows (c : Counts) (newFailures : Nat) : List (String × Int) := [
  ("Passed", c.passed), ("Failed", c.failed), ("Skipped", c.skipped),
  ("SchemaMismatch", c.schemaMismatch), ("Total", c.total), ("FuzzFails", newFailures),
  ("FuzzTotal", c.fuzzTotal)]

def summary (width : Nat) (c : Counts) (newFailures : Nat) : String :=
  let rows := (countRows c newFailures).map fun r => (r.1.toList, (toString r.2).toList)
  blankLine ++ ofLines (box width 1 "  SUMMARY  ".toList
    (table (width - 4) ("Result".toList, "Count".toList) rows))

def report (k : Console) (p : Plan) : Printed :=
  let shown := errors k p.results
  match shown.fault with
  | some _ => shown
  | none => ⟨shown.text ++ summary k.width p.counts p.newFailures.length, none⟩

def halt (k : Console) (reason : String) : Except Fault String :=
  match Markup.render k.names (styled "bold white" (escape reason)) with
  | .error f => .error f
  | .ok shown =>
    (shown.lines (k.width - 6)).map fun lines =>
      blankLine ++ ofLines (box k.width 2 "  HALT  ".toList lines) ++ blankLine

end Runbook.Screen
