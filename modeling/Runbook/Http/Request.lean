import Runbook.Http.Header
import Runbook.Http.Url
import Runbook.Params
import Runbook.Text.Base64
import Runbook.Text.Case
import Runbook.Value.Json

namespace Runbook.Http

structure Request where
  method : String
  url : Url
  headers : Headers
  body : String
deriving DecidableEq, Repr

namespace Request

/-- The text of a field: nothing for null, and words for flags. -/
def fieldText : Value → Except Fault String
  | .null => .ok ""
  | .bool b => .ok (if b then "true" else "false")
  | v => v.text?.elim (.error (.data .value)) .ok

def fieldItems : Value → List Value
  | .list vs => vs
  | .tuple vs => vs
  | v => [v]

def fieldTexts (name : String) : List Value → Except Fault (List (String × String))
  | [] => .ok []
  | v :: vs =>
    match fieldText v with
    | .error f => .error f
    | .ok t => (fieldTexts name vs).map ((name, t) :: ·)

def fields : List (String × Value) → Except Fault (List (String × String))
  | [] => .ok []
  | (name, v) :: es =>
    match fieldTexts name (fieldItems v) with
    | .error f => .error f
    | .ok ts => (fields es).map (ts ++ ·)

/-- Documents are written without blanks. A number that is not finite has no place in one. -/
def documentStyle : Json.Style := ⟨",", ":", false, Value.numbers⟩

def documentNumber : Binary64 → Except Fault Binary64
  | .finite s m => .ok (.finite s m)
  | _ => .error (.data .value)

def documentRules : Value.JsonRules where
  whole := Value.textualWhole
  number x := (documentNumber x).map .float
  key := Value.documentKey fun x => (documentNumber x).map Value.numbers.text
  setsAreLists := false
  other _ := .error (.data .kind)
  sorted := false

structure Content where
  kind : Option String
  body : String

/-- What a step sends: its form if it has one, else its body. -/
def content (p : Params) : Except Fault Content :=
  if !p.form.isEmpty then
    (fields p.form.entries).map fun fs =>
      ⟨some "application/x-www-form-urlencoded", Text.Percent.encodeFields fs⟩
  else
    match p.body with
    | .absent => .ok ⟨none, ""⟩
    | b => (b.value.toJson documentRules).map fun j => ⟨some "application/json", documentStyle.text j⟩

def carriesLength (method : String) : Bool :=
  method == "POST" || method == "PUT" || method == "PATCH"

def describe (method : String) (hs : Headers) (c : Content) : Headers :=
  match c.kind with
  | some kind =>
    let length := toString (Text.Utf8.encode c.body.toList).length
    (hs.setDefault "Content-Length" length).setDefault "Content-Type" kind
  | none =>
    if carriesLength method && !hs.has "Content-Length" && !hs.has "Transfer-Encoding" then
      ⟨"Content-Length", "0"⟩ :: hs
    else hs

def urlFault {α : Type} : Except UrlFault α → Except Fault α
  | .ok a => .ok a
  | .error f => .error (.exchange (.url f))

/-- The fields of a query in the place of the query that the URL has. -/
def withFields (u : Url) (query : Slot) : Except Fault Url :=
  if query.isEmpty then .ok u
  else
    match fields query.entries with
    | .error f => .error f
    | .ok fs => urlFault (u.withQuery (some (Text.Percent.encodeFields fs)))

def make (base : Url) (method text : String) (hs : Headers) (p : Params) : Except Fault Request := do
  let u ← urlFault (base.under text)
  if !hs.isAscii then throw (.exchange .notAscii)
  let u ← withFields u p.query
  let c ← content p
  if !hs.has "Host" then discard u.readHost
  return ⟨method, u, describe method hs c, c.body⟩

def withBasic (r : Request) (user password : String) : Request :=
  let token := Text.Base64.encode (Text.Utf8.encode (user ++ ":" ++ password).toList)
  { r with headers := r.headers.set "Authorization" ("Basic " ++ String.ofList token) }

end Request

end Runbook.Http
