import Runbook.Fault
import Runbook.Http.Header
import Runbook.Json.Reading
import Runbook.Text.Charset
import Runbook.Value.Json

namespace Runbook.Http

structure Answer where
  status : Int
  headers : Headers
  body : List UInt8

namespace Answer

def location? (a : Answer) : Option String :=
  if a.status == 301 || a.status == 302 || a.status == 303 || a.status == 307 || a.status == 308 then
    a.headers.get? "Location"
  else none

/-- The body as a document; one that is none reads as null. -/
def document (a : Answer) : Except Fault Value :=
  match (Text.Charset.detect a.body).decode? a.body with
  | none => .ok .null
  | some cs =>
    match Json.read none cs with
    | .ok j => .ok (.ofJson j)
    | .error .malformed => .ok .null
    | .error .longNumber => .error (.data .value)

def pieces : Bool → List Char → List (List Char)
  | _, [] => [[]]
  | inQuotes, c :: cs =>
    if c = ';' && !inQuotes then [] :: pieces false cs
    else
      match pieces (if c = '"' then !inQuotes else inQuotes) cs with
      | [] => [[c]]
      | p :: ps => (c :: p) :: ps

def unquote (cs : List Char) : List Char :=
  match cs, cs.getLast? with
  | '"' :: rest, some '"' => if rest.isEmpty then cs else rest.dropLast
  | '<' :: rest, some '>' => rest.dropLast
  | _, _ => cs

def parameter? (name : String) (value : String) : Option String :=
  (pieces false value.toList).findSome? fun p =>
    match Text.cutFirst '=' p with
    | (key, some v) =>
      if Headers.sameName (String.ofList (Text.strip key)) name then
        some (String.ofList (unquote (Text.strip v)))
      else none
    | _ => none

/-- The character set that the answer names, if it is a known one. -/
def charset (a : Answer) : Text.Charset :=
  (((a.headers.get? "Content-Type").bind (parameter? "charset")).bind Text.Charset.ofName?).getD .utf8

def text (a : Answer) : Except Fault String :=
  match a.charset.decodeLossy? a.body with
  | some cs => .ok (String.ofList cs)
  | none => .error (.exchange .byteOrder)

end Answer

end Runbook.Http
