import Runbook.Fault
import Runbook.Http.Host
import Runbook.Number.Numeral

namespace Runbook.Http

open Text

structure Url where
  scheme : String
  userinfo : String
  /-- An address of eight groups stands here without its brackets. -/
  host : String
  port : Option Int
  path : String
  query : Option String
  fragment : Option String
deriving DecidableEq, Repr

/-- The parts of a text that stands for a URL, as they are written. -/
structure UrlParts where
  scheme : List Char
  authority : List Char
  path : List Char
  query : Option (List Char)
  fragment : Option (List Char)

namespace UrlParts

def isSchemeChar (c : Char) : Bool := c.isAlphanum || c == '+' || c == '.' || c == '-'

def cutScheme (cs : List Char) : List Char × List Char :=
  let scheme := if cs.head?.any Char.isAlpha then cs.takeWhile isSchemeChar else []
  match cs.drop scheme.length with
  | ':' :: rest => (scheme, rest)
  | _ => ([], cs)

def endsAuthority (c : Char) : Bool := c == '/' || c == '?' || c == '#'

def cutAuthority (cs : List Char) : List Char × List Char :=
  match cs with
  | '/' :: '/' :: rest => (rest.takeWhile (!endsAuthority ·), rest.dropWhile (!endsAuthority ·))
  | _ => ([], cs)

def ofText (cs : List Char) : UrlParts :=
  let (scheme, cs) := cutScheme cs
  let (authority, cs) := cutAuthority cs
  let (cs, fragment) := cutFirst '#' cs
  let (path, query) := cutFirst '?' cs
  ⟨scheme, authority, path, query, fragment⟩

def cutUserinfo (cs : List Char) : List Char × List Char :=
  let tail := (cs.reverse.takeWhile (· != '@')).reverse
  if tail.length = cs.length then ([], cs) else (cs.take (cs.length - tail.length - 1), tail)

/-- A host and its port. The host may stand between brackets, and nothing has to stand before the
port then. -/
def cutPort (cs : List Char) : List Char × List Char :=
  let bracketed := (cs.reverse.dropWhile (· != ']')).reverse
  let host :=
    if cs.head? == some '[' && !bracketed.isEmpty then bracketed
    else cs.takeWhile fun c => c != ':' && c != '@'
  match cs.drop host.length with
  | ':' :: port => (host, port)
  | port => (host, port)

end UrlParts

namespace Url

def limit : Nat := 65536

def defaultPort? : String → Option Int
  | "http" => some 80
  | "https" => some 443
  | "ws" => some 80
  | "wss" => some 443
  | "ftp" => some 21
  | _ => none

def readPort (scheme : String) (cs : List Char) : Except UrlFault (Option Int) :=
  if cs.isEmpty then .ok none
  else
    match Numeral.int? cs with
    | none => .error (.port (String.ofList cs))
    | some n => .ok (if defaultPort? scheme == some n then none else some n)

def walkDots : List (List Char) → List (List Char) → List (List Char)
  | [], out => out
  | s :: ss, out =>
    if s == ['.'] then walkDots ss out
    else if s == ['.', '.'] then walkDots ss (if out == [[]] then out else out.dropLast)
    else walkDots ss (out ++ [s])

def withoutDots (cs : List Char) : List Char :=
  ((walkDots (cutAt '/' cs) []).intersperse ['/']).flatten

def isVisible (c : Char) : Bool := 0x20 < c.toNat && c.toNat < 0x7F

def isFragmentChar (c : Char) : Bool := isVisible c && !"\"<>\x60".toList.contains c

def isQueryChar (c : Char) : Bool := isVisible c && !"\"#<>".toList.contains c

def isPathChar (c : Char) : Bool := isQueryChar c && !"?\x60\x7b\x7d".toList.contains c

def isUserinfoChar (c : Char) : Bool := isPathChar c && !"/;=@[\\]^|".toList.contains c

def encoded (keep : Char → Bool) (cs : List Char) : String := String.ofList (Percent.encode keep cs)

/-- Without an authority a path must not look like one, nor like a scheme. -/
def checkPath (hasScheme hasAuthority : Bool) (cs : List Char) : Except UrlFault Unit :=
  if hasAuthority && !cs.isEmpty && cs.head? != some '/' then .error .unrootedPath
  else if !hasScheme && !hasAuthority && ['/', '/'].isPrefixOf cs then .error .doubleSlash
  else if !hasScheme && !hasAuthority && cs.head? == some ':' then .error .leadingColon
  else .ok ()

/-- The URL that parts make, with another host in the place of their own if one is given. -/
def ofParts (p : UrlParts) (otherHost : Option String) : Except UrlFault Url := do
  let (userinfo, rest) := UrlParts.cutUserinfo p.authority
  let (host, port) := UrlParts.cutPort rest
  let scheme := String.ofList (p.scheme.map Char.toLower)
  let userinfo := encoded isUserinfoChar userinfo
  let host ← Host.encode (otherHost.getD (String.ofList host))
  let port ← readPort (String.ofList p.scheme) port
  let hasAuthority := userinfo != "" || host != "" || port.isSome
  checkPath (scheme != "") hasAuthority p.path
  let path := if scheme != "" || hasAuthority then withoutDots p.path else p.path
  return {
    scheme, userinfo, host, port
    path := encoded isPathChar path
    query := p.query.map (encoded isQueryChar)
    fragment := p.fragment.map (encoded isFragmentChar) }

def isControl (c : Char) : Bool := c.toNat < 0x20 || c.toNat == 0x7F

def ofText (s : String) : Except UrlFault Url :=
  let cs := s.toList
  if limit < cs.length then .error .tooLong
  else
    match cs.find? isControl with
    | some c => .error (.unprintable c (cs.takeWhile (!isControl ·)).length)
    | none => ofParts (.ofText cs) none

def authority (u : Url) : String :=
  (if u.userinfo == "" then "" else u.userinfo ++ "@") ++
    (if u.host.toList.contains ':' then "[" ++ u.host ++ "]" else u.host) ++
    u.port.elim "" fun n => ":" ++ toString n

def text (u : Url) : String :=
  (if u.scheme == "" then "" else u.scheme ++ ":") ++
    (if u.authority == "" then "" else "//" ++ u.authority) ++ u.path ++
    u.query.elim "" ("?" ++ ·) ++ u.fragment.elim "" ("#" ++ ·)

def parts (u : Url) : UrlParts :=
  ⟨u.scheme.toList, u.authority.toList, u.path.toList, u.query.map String.toList,
    u.fragment.map String.toList⟩

def checkLength (name : String) (cs : List Char) : Except UrlFault Unit :=
  if limit < cs.length then .error (.partTooLong name) else .ok ()

def remade (p : UrlParts) (otherHost : Option String) : Except UrlFault Url := do
  checkLength "scheme" p.scheme
  checkLength "authority" p.authority
  checkLength "path" p.path
  checkLength "query" (p.query.getD [])
  checkLength "fragment" (p.fragment.getD [])
  ofParts p otherHost

def isAbsolute (u : Url) : Bool := u.scheme != "" && u.host != ""

def target (u : Url) : String :=
  (if u.path == "" then "/" else u.path) ++ u.query.elim "" ("?" ++ ·)

def withTarget (u : Url) (cs : List Char) : Except UrlFault Url :=
  let (path, query) := cutFirst '?' cs
  remade { u.parts with path, query } none

def withQuery (u : Url) (query : Option String) : Except UrlFault Url :=
  remade { u.parts with query := query.map String.toList } none

def withFragment (u : Url) (fragment : String) : Except UrlFault Url :=
  match fragment.toList.find? isControl with
  | some c => .error (.unprintable c (fragment.toList.takeWhile (!isControl ·)).length)
  | none => remade { u.parts with fragment := some fragment.toList } none

def bracketed (host : String) : String :=
  if host.toList.contains ':' then "[" ++ host ++ "]" else host

def withHost (u : Url) (host : String) : Except UrlFault Url := remade u.parts (some (bracketed host))

def asBase (u : Url) : Except UrlFault Url :=
  let target := u.target.toList
  if target.getLast? == some '/' then .ok u else u.withTarget (target ++ ['/'])

/-- Where a text leads from a base: an absolute URL leads where it says, any other is put behind the
target of the base. -/
def under (base : Url) (s : String) : Except UrlFault Url :=
  match ofText s with
  | .error f => .error f
  | .ok u =>
    if u.isAbsolute then .ok u
    else base.withTarget (base.target.toList ++ u.target.toList.dropWhile (· == '/'))

def credentials (u : Url) : String × String :=
  let (user, password) := cutFirst ':' u.userinfo.toList
  (String.ofList (Percent.decode user), String.ofList (Percent.decode (password.getD [])))

def readHost (u : Url) : Except Fault String :=
  (Host.decode? u.host).elim (.error (.exchange .hostName)) .ok

def usedPort (u : Url) : Option Int :=
  u.port.or (if u.scheme == "http" || u.scheme == "https" then defaultPort? u.scheme else none)

/-- The last segment of a path is split from its parameters at the first semicolon. -/
def cutParameters (path : List Char) : List Char × List Char :=
  let last := (path.reverse.takeWhile (· != '/')).reverse
  let (name, params) := cutFirst ';' last
  (path.take (path.length - last.length) ++ name, params.getD [])

def joinSegments (base path : List Char) : List (List Char) :=
  if path.head? == some '/' then cutAt '/' path
  else
    let folder := (cutAt '/' base).dropLast ++ (if base.getLast? == some '/' then [[]] else [])
    let all := folder ++ cutAt '/' path
    all.take 1 ++ ((all.drop 1).dropLast.filter (!·.isEmpty)) ++ (all.drop 1).getLast?.toList

def climb : List (List Char) → List (List Char) → List (List Char)
  | [], out => out
  | s :: ss, out =>
    if s == ['.', '.'] then climb ss out.dropLast
    else if s == ['.'] then climb ss out
    else climb ss (out ++ [s])

def joinPaths (base path : List Char) : List Char :=
  let segments := joinSegments base path
  let last := segments.getLast?.getD []
  let out := climb segments [] ++ (if last == ['.'] || last == ['.', '.'] then [[]] else [])
  let cs := (out.intersperse ['/']).flatten
  if cs.isEmpty then ['/'] else cs

def unlessEmpty (cs : Option (List Char)) : Option (List Char) := cs.filter (!·.isEmpty)

def joinParts (base : Url) (p : UrlParts) : UrlParts :=
  let query := unlessEmpty p.query
  let (path, params) := cutParameters p.path
  let written (authority path params : List Char) (query : Option (List Char)) : UrlParts :=
    let path := if params.isEmpty then path else path ++ ';' :: params
    let path := if !path.isEmpty && path.head? != some '/' then '/' :: path else path
    ⟨base.scheme.toList, authority, path, query, unlessEmpty p.fragment⟩
  if !p.authority.isEmpty then written p.authority path params query
  else if path.isEmpty && params.isEmpty then
    let (basePath, baseParams) := cutParameters base.path.toList
    written base.authority.toList basePath baseParams (query.or (unlessEmpty base.parts.query))
  else
    written base.authority.toList (joinPaths (cutParameters base.path.toList).1 path) params query

/-- Where a URL leads from another one. If its text names another scheme it stands for itself. -/
def join (base u : Url) : Except UrlFault Url :=
  let given := UrlParts.ofText u.text.toList
  if u.text == "" then ofText base.text
  else if !given.scheme.isEmpty && given.scheme.map Char.toLower != base.scheme.toList then
    ofText u.text
  else
    let p := joinParts base given
    ofText (String.ofList (p.scheme ++ [':', '/', '/'] ++ p.authority ++ p.path ++
      (p.query.elim [] ('?' :: ·)) ++ (p.fragment.elim [] ('#' :: ·))))

end Url

end Runbook.Http
