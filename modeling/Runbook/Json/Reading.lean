import Runbook.Dict
import Runbook.Json.Token

namespace Runbook.Json

/-- A list or mapping whose end has not been seen; the items of the list are latest first. -/
inductive Frame where
  | list (items : List Json)
  | map (entries : Dict String Json)
  /-- A mapping with the key whose value comes next. -/
  | entry (entries : Dict String Json) (key : String)

inductive Expected where
  | value
  | valueOrClose
  | key
  | keyOrClose
  | colon
  | commaOrClose
  | nothing

structure Progress where
  stack : List Frame
  expected : Expected
  result : Json

namespace Progress

def start : Progress := ⟨[], .value, .null⟩

/-- A document is complete: it belongs to the innermost open frame. -/
def give (stack : List Frame) (j : Json) : Except ReadFault Progress :=
  match stack with
  | [] => .ok ⟨[], .nothing, j⟩
  | .list items :: s => .ok ⟨.list (j :: items) :: s, .commaOrClose, .null⟩
  | .entry entries k :: s => .ok ⟨.map (entries.put k j) :: s, .commaOrClose, .null⟩
  | .map _ :: _ => .error .malformed

def close : List Frame → Except ReadFault Progress
  | .list items :: s => give s (.list items.reverse)
  | .map entries :: s => give s (.map entries.entries)
  | _ => .error .malformed

def begin (p : Progress) : Token → Except ReadFault Progress
  | .openList => .ok { p with stack := .list [] :: p.stack, expected := .valueOrClose }
  | .openMap => .ok { p with stack := .map .empty :: p.stack, expected := .keyOrClose }
  | .text s => give p.stack (.str s)
  | .atom j => give p.stack j
  | .bad f => .error f
  | _ => .error .malformed

def key (p : Progress) : Token → Except ReadFault Progress
  | .text s =>
    match p.stack with
    | .map entries :: stack => .ok { p with stack := .entry entries s :: stack, expected := .colon }
    | _ => .error .malformed
  | _ => .error .malformed

/-- Something in a list or mapping may stand at most `depth` lists and mappings deep. -/
def within (depth : Option Nat) (p : Progress) (next : Except ReadFault Progress) :
    Except ReadFault Progress :=
  if depth.all (p.stack.length ≤ ·) then next else .error .malformed

def step (depth : Option Nat) (p : Progress) (t : Token) : Except ReadFault Progress :=
  match p.expected, t with
  | .valueOrClose, .closeList => close p.stack
  | .valueOrClose, t => within depth p (begin p t)
  | .value, t => within depth p (begin p t)
  | .keyOrClose, .closeMap => close p.stack
  | .keyOrClose, t => within depth p (key p t)
  | .key, t => key p t
  | .colon, .colon => .ok { p with expected := .value }
  | .commaOrClose, .comma =>
    match p.stack with
    | .list _ :: _ => .ok { p with expected := .value }
    | _ => .ok { p with expected := .key }
  | .commaOrClose, .closeList =>
    match p.stack with
    | .list _ :: _ => close p.stack
    | _ => .error .malformed
  | .commaOrClose, .closeMap =>
    match p.stack with
    | .map _ :: _ => close p.stack
    | _ => .error .malformed
  | _, _ => .error .malformed

def finish (p : Progress) : Except ReadFault Json :=
  match p.expected with
  | .nothing => .ok p.result
  | _ => .error .malformed

end Progress

def ofTokens (depth : Option Nat) (ts : List Token) : Except ReadFault Json :=
  match ts.foldlM (Progress.step depth) .start with
  | .ok p => p.finish
  | .error f => .error f

/-- The one document that a text holds, with lists and mappings nested at most `depth` deep. A key
that comes again replaces the earlier value. -/
def read (depth : Option Nat) (cs : List Char) : Except ReadFault Json :=
  ofTokens depth (Token.ofText cs)

end Runbook.Json
