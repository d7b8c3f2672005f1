import Runbook.History
import Runbook.Number.Numeral
import Runbook.Value.Text

namespace Runbook

/-- A piece of a text: a character, or an expression between double braces. -/
inductive Piece where
  | char (c : Char)
  | reference (expr : String)
deriving DecidableEq, Repr

namespace Piece

def isExprChar (c : Char) : Bool :=
  c != '{' && c != '}' && !Text.isBlank c

def closed? (cs : List Char) : Option (String × List Char) :=
  let body := cs.dropWhile Text.isBlank
  let expr := body.takeWhile isExprChar
  match expr, (body.dropWhile isExprChar).dropWhile Text.isBlank with
  | [], _ => none
  | _, '}' :: '}' :: rest => some (String.ofList expr, rest)
  | _, _ => none

def reference? : List Char → Option (String × List Char)
  | '{' :: '{' :: cs => closed? cs
  | _ => none

def split (skip : Nat) : List Char → List Piece
  | [] => []
  | c :: cs =>
    match skip with
    | skip + 1 => split skip cs
    | 0 =>
      match reference? (c :: cs) with
      | some (expr, rest) => reference expr :: split (cs.length - rest.length) cs
      | none => char c :: split 0 cs

/-- The leftmost references of a text and the characters between them. -/
def ofText (s : String) : List Piece := split 0 s.toList

end Piece

namespace Reference

def isIndex (part : String) : Bool :=
  !part.isEmpty && part.toList.all Text.isDigitLike

def follow (expr part : String) (v : Value) : Except Fault Value :=
  let missing := .error (.unresolved (.missingPart expr part))
  match v with
  | .map _ => (v.field? part).elim missing .ok
  | .list items =>
    if isIndex part then
      match Numeral.digits? part.toList with
      | none => .error (.data .value)
      | some n => (items[n]?).elim missing .ok
    else missing
  | _ => missing

def walk (expr : String) : List String → Value → Except Fault Value
  | [], v => .ok v
  | part :: path, v =>
    match follow expr part v with
    | .ok w => walk expr path w
    | .error f => .error f

def slot? (p : Params) (name : String) : Option Value :=
  match name with
  | "queryParams" => some p.query.value
  | "formParams" => some p.form.value
  | "pathParams" => some p.path.value
  | "headerParams" => some p.header.value
  | "bodyParams" => some p.body.value
  | _ => none

def inputs (expr : String) (r : Run) : List String → Except Fault Value
  | [] => .error (.unresolved (.malformed expr))
  | name :: path =>
    match slot? r.params name with
    | some v => walk expr path v
    | none => .error (.unresolved (.unknownSlot expr name))

def lookup (h : History) (expr : String) : Except Fault Value :=
  match (Text.cutAt '.' expr.toList).map String.ofList with
  | name :: part :: path =>
    match h.get? name with
    | none => .error (.unresolved (.unknownStep name))
    | some r =>
      match part with
      | "outputs" => walk expr path (r.response.elim .null (·.body))
      | "inputs" => inputs expr r path
      | _ => .error (.unresolved (.unknownSection expr part))
  | _ => .error (.unresolved (.malformed expr))

def pieceTexts (h : History) : List Piece → Except Fault (List Char)
  | [] => .ok []
  | .char c :: ps => (pieceTexts h ps).map (c :: ·)
  | .reference expr :: ps =>
    match lookup h expr with
    | .error f => .error f
    | .ok v =>
      match v.text? with
      | none => .error (.data .value)
      | some t => (pieceTexts h ps).map (t.toList ++ ·)

def resolveText (h : History) (s : String) : Except Fault Value :=
  match Piece.reference? (Text.strip s.toList) with
  | some (expr, []) => lookup h expr
  | _ => (pieceTexts h (Piece.ofText s)).map fun cs => .str (String.ofList cs)

mutual

def resolve (h : History) : Value → Except Fault Value
  | .str s => resolveText h s
  | .list items => (resolveItems h items).map .list
  | .map entries => (resolveEntries h entries).map .map
  | v => .ok v

def resolveItems (h : History) : List Value → Except Fault (List Value)
  | [] => .ok []
  | v :: vs =>
    match resolve h v with
    | .error f => .error f
    | .ok w => (resolveItems h vs).map (w :: ·)

def resolveEntries (h : History) : List (Value × Value) → Except Fault (List (Value × Value))
  | [] => .ok []
  | (k, v) :: es =>
    match resolve h v with
    | .error f => .error f
    | .ok w => (resolveEntries h es).map ((k, w) :: ·)

end

/-- A stage of resolving a run: the run so far, and what has gone wrong. -/
abbrev Progress := Run × Option Fault

def Progress.next {α : Type} (p : Progress) (part : Run → Except Fault α) (put : Run → α → Run) :
    Progress :=
  match p with
  | (r, some f) => (r, some f)
  | (r, none) =>
    match part r with
    | .ok a => (put r a, none)
    | .error f => (r, some f)

def resolveSlot (h : History) (s : Slot) : Except Fault Slot := s.mapValuesM (resolve h)

def resolveBody (h : History) : Body → Except Fault Body
  | .absent => .ok .absent
  | b => (resolve h b.value).map Body.ofValue

/-- Resolve the arguments slot by slot, then the body, then the path. At the first fault the rest
stays as it is. -/
def resolveRun (h : History) (r : Run) : Progress :=
  Progress.next (r, none) (resolveSlot h ·.params.query)
      (fun r s => { r with params := { r.params with query := s } })
    |>.next (resolveSlot h ·.params.form)
      (fun r s => { r with params := { r.params with form := s } })
    |>.next (resolveSlot h ·.params.path)
      (fun r s => { r with params := { r.params with path := s } })
    |>.next (resolveSlot h ·.params.header)
      (fun r s => { r with params := { r.params with header := s } })
    |>.next (resolveBody h ·.params.body)
      (fun r b => { r with params := { r.params with body := b } })
    |>.next (resolve h ·.path) (fun r v => { r with path := v })

end Reference

end Runbook
