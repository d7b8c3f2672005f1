import Runbook.Http.Answer
import Runbook.Http.Cookie
import Runbook.Http.Request

namespace Runbook.Http

/-- What becomes of a request. -/
inductive Reply where
  | answer (a : Answer)
  /-- The connection fails. -/
  | broken (message : String)
  /-- The transport does not take the request. -/
  | refused (cause : Fault)

structure Transport (τ : Type) where
  send : Request → τ → Reply × τ

/-- Why there is no answer in the end: the exchange has failed, or it cannot be made. -/
inductive Stop where
  | failed (message : String)
  | fault (cause : Fault)

structure Client (τ : Type) where
  base : Url
  transport : Transport τ
  today : Date

namespace Client

structure State (τ : Type) where
  cookies : Cookies
  transport : τ

variable {τ : Type}

def atBase (base : String) (transport : Transport τ) (today : Date) : Except Fault (Client τ) :=
  match Url.ofText base with
  | .error f => .error (.exchange (.url f))
  | .ok u => (Request.urlFault u.asBase).map fun base => ⟨base, transport, today⟩

def start (channel : τ) : State τ := ⟨[], channel⟩

def redirectLimit : Nat := 15

/-- Only two schemes lead anywhere. -/
def unsupported? (u : Url) : Option String :=
  if u.scheme == "http" || u.scheme == "https" then none
  else if u.scheme == "" then some "Request URL is missing an 'http://' or 'https://' protocol."
  else some ("Request URL has an unsupported protocol '" ++ u.scheme ++ "://'.")

/-- The method of the request that follows a redirection. -/
def redirectMethod (status : Int) (method : String) : String :=
  if (status == 302 || status == 303) && method != "HEAD" then "GET"
  else if status == 301 && method == "POST" then "GET"
  else method

def stopFor {α : Type} : Except Fault α → Except Stop α
  | .ok a => .ok a
  | .error f => .error (.fault f)

def stopForUrl (r : Except UrlFault Url) : Except Stop Url := stopFor (Request.urlFault r)

/-- A URL with a scheme and no host has the host of the request. -/
def takeHost (asked u : Url) : Except Stop Url := do
  let host ← stopFor u.readHost
  if u.scheme != "" && host == "" then stopForUrl (u.withHost (← stopFor asked.readHost))
  else pure u

def joined (asked u : Url) : Except Stop Url :=
  if u.isAbsolute then pure u else stopForUrl (asked.join u)

def takeFragment (asked u : Url) : Except Stop Url :=
  match asked.fragment with
  | some f =>
    if f != "" && (u.fragment.getD "") == "" then
      stopForUrl (u.withFragment (String.ofList (Text.Percent.decode f.toList)))
    else pure u
  | none => pure u

def completeUrl (asked u : Url) : Except Stop Url := do
  takeFragment asked (← joined asked (← takeHost asked u))

def redirectUrl (asked : Url) (location : String) : Except Stop Url :=
  match Url.ofText location with
  | .error f => .error (.failed ("Invalid URL in location header: " ++ f.message ++ "."))
  | .ok u => completeUrl asked u

def sameOrigin (a b : Url) : Bool :=
  a.scheme == b.scheme && a.host == b.host && a.usedPort == b.usedPort

def isUpgrade (a b : Url) : Bool :=
  a.host == b.host && a.scheme == "http" && a.usedPort == some 80 && b.scheme == "https" &&
    b.usedPort == some 443

/-- What a redirected request keeps of its headers: credentials stay with their origin, and a body
that is not sent again is not described. -/
def redirectHeaders (r : Request) (u : Url) (method : String) : Headers :=
  let hs := if sameOrigin u r.url || isUpgrade r.url u then r.headers
    else r.headers.erase "Authorization"
  let hs := if method != r.method && method == "GET" then
      (hs.erase "Content-Length").erase "Transfer-Encoding"
    else hs
  hs.erase "Cookie"

def redirect (r : Request) (a : Answer) (location : String) : Except Stop Request := do
  let u ← redirectUrl r.url location
  let method := redirectMethod a.status r.method
  return {
    method
    url := u
    headers := redirectHeaders r u method
    body := if method != r.method && method == "GET" then "" else r.body }

def withCookies (cs : Cookies) (r : Request) : Request :=
  match cs.line? r.url with
  | some line =>
    if r.headers.has "Cookie" then r else { r with headers := r.headers ++ [⟨"Cookie", line⟩] }
  | none => r

def exchange (c : Client τ) (r : Request) (s : State τ) : Except Stop Answer × State τ :=
  match unsupported? r.url with
  | some message => (.error (.failed message), s)
  | none =>
    match c.transport.send r s.transport with
    | (.broken message, t) => (.error (.failed message), { s with transport := t })
    | (.refused cause, t) => (.error (.fault cause), { s with transport := t })
    | (.answer a, t) =>
      if a.headers.isAscii then
        (.ok a, ⟨s.cookies.takeAll c.today r.url a.headers, t⟩)
      else (.error (.fault (.exchange .notAscii)), { s with transport := t })

/-- Send a request: it comes to an end, or leads on to another request. -/
def hop (c : Client τ) (r : Request) (s : State τ) : (Except Stop Answer ⊕ Request) × State τ :=
  match c.exchange r s with
  | (.error stop, s) => (.inl (.error stop), s)
  | (.ok a, s) =>
    match a.location? with
    | none => (.inl (.ok a), s)
    | some location =>
      match redirect r a location with
      | .error stop => (.inl (.error stop), s)
      | .ok next => (.inr next, s)

def follow (c : Client τ) : Nat → Request → State τ → Except Stop Answer × State τ
  | 0, r, s =>
    match c.hop r s with
    | (.inl result, s) => (result, s)
    | (.inr _, s) => (.error (.failed "Exceeded maximum allowed redirects."), s)
  | n + 1, r, s =>
    match c.hop r s with
    | (.inl result, s) => (result, s)
    | (.inr next, s) => c.follow n (withCookies s.cookies next) s

/-- Send a request. The credentials in its URL count if it has no better ones. -/
def send (c : Client τ) (r : Request) (basic : Option (String × String)) (s : State τ) :
    Except Stop Answer × State τ :=
  let (user, password) := basic.getD r.url.credentials
  let r := if user == "" && password == "" then r else r.withBasic user password
  c.follow redirectLimit (withCookies s.cookies r) s

end Client

end Runbook.Http
