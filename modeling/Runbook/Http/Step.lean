import Runbook.Http.Client
import Runbook.Outcome

namespace Runbook.Http

variable {τ : Type}

/-- Credentials for a step: a token as a header, or a user with a password. -/
def tokenHeader (a : Auth) : Dict String String :=
  if a.token == "" then .empty else .ofList [("Authorization", "Bearer " ++ a.token)]

def basic (a : Auth) : Option (String × String) :=
  if a.token == "" && a.username != "" then some (a.username, a.password) else none

def headersOf (r : Run) : Except Fault Headers := do
  let own ← r.params.header.mapValuesM fun v => v.text?.elim (.error (.data .value)) .ok
  return ((tokenHeader r.auth).combine own).entries.map fun e => ⟨e.1, e.2⟩

def placeOf (r : Run) : Except Fault Value := PathTemplate.expandValue r.params.path r.path

def requestOf (c : Client τ) (r : Run) (hs : Headers) : Value → Except Fault (String × Request)
  | .str place => (Request.make c.base (Text.upper r.method) place hs r.params).map fun q => (place, q)
  | _ => .error (.data .kind)

def prepare (c : Client τ) (r : Run) : Except Fault (String × Request) := do
  let hs ← headersOf r
  requestOf c r hs (← placeOf r)

def judge (r : Run) (a : Answer) (body : Value) (text : String) : Except Fault Outcome :=
  (Outcome.checkStatus a.status r.expect).map fun failure => {
    response := some ⟨a.status, body, text⟩
    payloads := []
    schemaError := none
    responseError := failure
    fuzzTotal := 0 }

def failedOutcome (message : String) : Outcome where
  response := none
  payloads := []
  schemaError := none
  responseError := some ⟨message, none⟩
  fuzzTotal := 0

def conclude (r : Run) (place : String) :
    Except Stop Answer → Except Fault Outcome × List Notice
  | .error (.fault f) => (.error f, [])
  | .error (.failed message) =>
    let method := Text.upper r.method
    (.ok (failedOutcome (method ++ " " ++ place ++ ": " ++ message)),
      [.requestFailed method place message])
  | .ok a =>
    match a.document, a.text with
    | .error f, _ => (.error f, [])
    | _, .error f => (.error f, [])
    | .ok body, .ok text =>
      (judge r a body text, [.answered (Text.upper r.method) place a.status])

def Client.runner (c : Client τ) : Runner (State τ) where
  run r _ s :=
    match prepare c r with
    | .error f => ((.error f, []), s)
    | .ok (place, q) =>
      let (result, s) := c.send q (basic r.auth) s
      (conclude r place result, s)

end Runbook.Http
