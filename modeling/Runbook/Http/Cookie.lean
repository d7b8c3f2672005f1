import Runbook.Calendar
import Runbook.Http.Header
import Runbook.Http.Url
import Runbook.Number.Numeral

namespace Runbook.Http

open Text

structure Cookie where
  name : String
  value : Option String
  domain : String
  path : String
  secure : Bool
deriving DecidableEq, Repr

abbrev Cookies := List Cookie

namespace Cookie

def same (a b : Cookie) : Bool := a.domain == b.domain && a.path == b.path && a.name == b.name

/-- A host as domains have it: without its port, and in a domain of its own if it has none. -/
def hostDomain (u : Url) : String :=
  let host := lower ((if u.userinfo == "" then "" else u.userinfo ++ "@") ++ Url.bracketed u.host)
  if host.toList.contains '.' then host else host ++ ".local"

def requestPath (u : Url) : List Char := if u.path == "" then ['/'] else u.path.toList

def defaultPath (u : Url) : List Char :=
  let path := requestPath u
  let last := (path.reverse.takeWhile (· != '/')).length
  let folder := path.take (path.length - last - 1)
  if folder.isEmpty then ['/'] else folder

/-- An attribute in lower case, with its value if it has one. -/
structure Attribute where
  name : String
  value : Option String

def attribute? (cs : List Char) : Option Attribute :=
  let (key, value) := cutFirst '=' (strip cs)
  let key := strip key
  if key.isEmpty then none
  else some ⟨lower (String.ofList key), value.map fun v => String.ofList (strip v)⟩

def months : List String :=
  ["jan", "feb", "mar", "apr", "may", "jun", "jul", "aug", "sep", "oct", "nov", "dec"]

def dateWords (cs : List Char) : List (List Char) :=
  (cutAt ' ' (cs.map fun c => if c == '-' || c == ',' then ' ' else c.toLower)).filter (!·.isEmpty)

def readDate? (s : String) : Option Date :=
  let words := dateWords s.toList
  let numbers := words.filterMap fun w => if w.all Char.isDigit then Numeral.digits? w else none
  let month? := words.findSome? fun w => months.idxOf? (String.ofList (w.take 3))
  match numbers, month? with
  | day :: year :: _, some m =>
    let year := if year < 70 then year + 2000 else if year < 100 then year + 1900 else year
    Date.ofParts? year (m + 1) day
  | _, _ => none

/-- Whether a cookie is over, and whether that can be told at all. -/
def isOver? (today : Date) (as : List Attribute) : Option Bool :=
  match as.find? (·.name == "max-age") with
  | some a => (a.value.bind fun v => Numeral.int? v.toList).map fun n => n ≤ 0
  | none =>
    match (as.find? (·.name == "expires")).bind (·.value) with
    | some v => some ((readDate? v).any fun d => d.dayNumber < today.dayNumber)
    | none => some false

/-- The domain of a cookie: that of the host, or the one that is named, behind a dot. -/
def domainOf (u : Url) (named : Option String) : String :=
  match named with
  | none => hostDomain u
  | some d => if d.toList.head? == some '.' then lower d else "." ++ lower d

/-- A service may name a domain that its host lies in and that is not a whole top level. -/
def mayName (u : Url) (domain : String) : Bool :=
  (domain == ".local" || (domain.toList.drop 1).contains '.') &&
    domain.toList.isSuffixOf ('.' :: (hostDomain u).toList)

def goesTo (c : Cookie) (u : Url) : Bool :=
  let dotted := if c.domain.toList.head? == some '.' then c.domain.toList else '.' :: c.domain.toList
  let path := requestPath u
  let own := c.path.toList
  (!c.secure || u.scheme == "https") && dotted.isSuffixOf ('.' :: (hostDomain u).toList) &&
    (path == own || (own.isPrefixOf path &&
      (own.getLast? == some '/' || (path.drop own.length).head? == some '/')))

end Cookie

namespace Cookies

def put : Cookies → Cookie → Cookies
  | [], c => [c]
  | d :: ds, c => if d.same c then c :: ds else d :: put ds c

def drop (cs : Cookies) (c : Cookie) : Cookies := cs.filter fun d => !d.same c

def take (today : Date) (u : Url) (cs : Cookies) (line : String) : Cookies :=
  match cutAt ';' line.toList with
  | [] => cs
  | first :: rest =>
    let (name, value) := cutFirst '=' (strip first)
    let name := strip name
    let attributes := rest.filterMap Cookie.attribute?
    let get (n : String) := attributes.find? (·.name == n)
    let named := (get "domain").bind (·.value)
    let path := ((get "path").bind (·.value)).filter (· != "")
    let c : Cookie := {
      name := String.ofList name
      value := value.map fun v => String.ofList (strip v)
      domain := Cookie.domainOf u named
      path := path.getD (String.ofList (Cookie.defaultPath u))
      secure := (get "secure").isSome }
    if name.isEmpty then cs
    else
      match Cookie.isOver? today attributes with
      | none => cs
      | some true => cs.drop c
      | some false => if named.isNone || Cookie.mayName u c.domain then cs.put c else cs

def takeAll (today : Date) (u : Url) (cs : Cookies) (hs : Headers) : Cookies :=
  ((hs.filter fun h => Headers.sameName h.name "Set-Cookie").map (·.value)).foldl (take today u) cs

/-- Put a cookie before those with shorter paths. -/
def insertByPath (c : Cookie) : Cookies → Cookies
  | [] => [c]
  | d :: ds => if d.path.length < c.path.length then c :: d :: ds else d :: insertByPath c ds

def line? (cs : Cookies) (u : Url) : Option String :=
  match (cs.filter (·.goesTo u)).foldl (fun sorted c => insertByPath c sorted) [] with
  | [] => none
  | found =>
    some ("; ".intercalate (found.map fun c => c.value.elim c.name fun v => c.name ++ "=" ++ v))

end Cookies

end Runbook.Http
