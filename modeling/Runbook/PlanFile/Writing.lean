import Runbook.Calendar
import Runbook.Plan
import Runbook.PlanFile.Chunk
import Runbook.Storage
import Runbook.Yaml.Writing

namespace Runbook.PlanFile

/-- A piece of a file to be written, and what it belongs to. -/
structure Piece where
  what : String
  text : Except Fault String

inductive Written where
  | whole
  | short
  | failed
deriving DecidableEq

def commentText (comment : String) : String :=
  String.ofList ((Text.cutAt '\n' comment.toList).flatMap fun line => '#' :: ' ' :: (line ++ ['\n']))

def commentPieces (what comment : String) : List Piece :=
  if comment.isEmpty then [] else [⟨what, .ok (commentText comment)⟩]

def dslMap (es : List (String × Value)) : Value := .map (es.map fun e => (.str e.1, e.2))

def suitePieces (name comment : String) (tests : List Value) : List Piece :=
  let what := "test suite " ++ name
  let text := (Yaml.write? (.map [(.str name, .list tests)])).elim (.error (.data .value)) .ok
  [⟨what, .ok "\n\n"⟩] ++ commentPieces what comment ++ [⟨what, .ok "---\n"⟩, ⟨what, text⟩]

def planPieces (p : Plan) : List Piece :=
  commentPieces "plan comment" p.comment ++ p.suites.values.flatMap fun s =>
    suitePieces s.name s.comment (s.tests.map fun t => dslMap t.toDsl)

/-- What has reached a file, how many pieces were tried, and why the writing stopped. -/
structure Progress where
  text : String
  tried : Nat
  fault : Option Fault

/-- Write pieces to a device, which does with each piece as its number says. -/
def writeTo (device : Nat → Written) : List Piece → Progress → Progress
  | [], w => w
  | p :: ps, w =>
    match p.text with
    | .error f => { w with fault := some f }
    | .ok text =>
      match device w.tried with
      | .whole => writeTo device ps { w with text := w.text ++ text, tried := w.tried + 1 }
      | .short =>
        ⟨w.text ++ String.ofList text.toList.dropLast, w.tried + 1, some (.write (.short p.what))⟩
      | .failed => { w with tried := w.tried + 1, fault := some (.write (.writing p.what)) }

def writePieces (device : Nat → Written) (ps : List Piece) : Progress :=
  writeTo device ps ⟨"", 0, none⟩

/-- Write pieces to a file, which takes every piece whole. -/
def store (s : Storage) (path : String) (ps : List Piece) : Storage × Except Fault Unit :=
  match s.openFor false path with
  | .error _ => (s, .error (.write (.opening path)))
  | .ok s =>
    let w := writePieces (fun _ => .whole) ps
    (s.append path w.text, w.fault.elim (.ok ()) .error)

/-- The suite of what was executed is named after the time when it ended, to the second. -/
def resultsName (now : DateTime) : String := { now with micro := 0 }.text "T"

def resultsPieces (p : Plan) (now : DateTime) : List Piece :=
  suitePieces (resultsName now) "" (p.results.map fun r => dslMap r.toDsl)

end Runbook.PlanFile
