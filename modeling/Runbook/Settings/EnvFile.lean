import Runbook.Dict
import Runbook.Fault
import Runbook.Text.Blank

namespace Runbook

abbrev Environment := Dict String String

namespace EnvFile

def isGap (c : Char) : Bool := Text.isBlank c && c != '\n'

def afterExport (cs : List Char) : List Char :=
  match ['e', 'x', 'p', 'o', 'r', 't'].isPrefixOf cs, cs.drop 6 with
  | true, c :: rest => if isGap c then rest.dropWhile isGap else cs
  | _, _ => cs

def isNameChar (c : Char) : Bool := c != '=' && c != '#' && !Text.isBlank c

def someName (name rest : List Char) : Option (Option String × List Char) :=
  if name.isEmpty then none else some (some (String.ofList name), rest)

/-- The name at the front of a line, none before a comment. A name between quotes may hold any
character but the quote. -/
def name? (cs : List Char) : Option (Option String × List Char) :=
  match cs with
  | '#' :: _ => some (none, cs)
  | '\'' :: rest =>
    match rest.dropWhile (· != '\'') with
    | [] => none
    | _ :: after => someName (rest.takeWhile (· != '\'')) after
  | _ => someName (cs.takeWhile isNameChar) (cs.dropWhile isNameChar)

/-- Before and after the first quote that does not follow a backslash; `last` stands before `cs`. -/
def firstQuote? (q last : Char) : List Char → Option (List Char × List Char)
  | [] => none
  | c :: cs =>
    if c = q && last != '\\' then some ([], cs)
    else (firstQuote? q c cs).map fun r => (c :: r.1, r.2)

def lastQuote? (q : Char) : List Char → Option (List Char × List Char)
  | [] => none
  | c :: cs =>
    match lastQuote? q cs with
    | some r => some (c :: r.1, r.2)
    | none => if c = q then some ([], cs) else none

/-- A text behind its opening quote and what follows the closing one. A quote after a backslash
belongs to the text, unless no other closes it. -/
def quoted? (q : Char) (cs : List Char) : Option (List Char × List Char) :=
  (firstQuote? q q cs).or (lastQuote? q cs)

def escape? (q c : Char) : Option Char :=
  if c = '\\' || c = '\'' then some c
  else if q = '\'' then none
  else match c with
    | '"' => some '"'
    | 'a' => some '\x07'
    | 'b' => some '\x08'
    | 'f' => some '\x0c'
    | 'n' => some '\n'
    | 'r' => some '\r'
    | 't' => some '\t'
    | 'v' => some '\x0b'
    | _ => none

def unescape (q : Char) : List Char → List Char
  | [] => []
  | '\\' :: c :: cs =>
    match escape? q c with
    | some d => d :: unescape q cs
    | none => '\\' :: unescape q (c :: cs)
  | c :: cs => c :: unescape q cs

/-- A comment begins at a `#` behind a blank. -/
def dropComment : List Char → List Char
  | [] => []
  | c :: cs =>
    if Text.isBlank c && (cs.dropWhile Text.isBlank).head? == some '#' then []
    else c :: dropComment cs

def value? (cs : List Char) : Option (List Char × List Char) :=
  match cs with
  | '\'' :: rest => (quoted? '\'' rest).map fun r => (unescape '\'' r.1, r.2)
  | '"' :: rest => (quoted? '"' rest).map fun r => (unescape '"' r.1, r.2)
  | _ =>
    some (Text.dropEndWhile Text.isBlank (dropComment (cs.takeWhile (· != '\n'))),
      cs.dropWhile (· != '\n'))

def lineEnd? (cs : List Char) : Option (List Char) :=
  match cs.dropWhile isGap with
  | [] => some []
  | '\n' :: rest => some rest
  | '#' :: rest => some ((rest.dropWhile (· != '\n')).drop 1)
  | _ => none

/-- A variable by its name, with the value it is given, if any. -/
structure Binding where
  name : String
  value : Option (List Char)

def named? (name : Option String) (value : Option (List Char)) : Option Binding :=
  name.map (⟨·, value⟩)

/-- Where a line goes wrong the rest of it is dropped. -/
def dropLine (cs : List Char) : Option Binding × List Char :=
  (none, (cs.dropWhile (· != '\n')).drop 1)

def endLine (b : Option Binding) (cs : List Char) : Option Binding × List Char :=
  match lineEnd? cs with
  | some rest => (b, rest)
  | none => dropLine cs

def line (cs : List Char) : Option Binding × List Char :=
  let cs := afterExport cs
  match name? cs with
  | none => dropLine cs
  | some (name, rest) =>
    match rest.dropWhile isGap with
    | '=' :: rest =>
      let rest := rest.dropWhile isGap
      match value? rest with
      | none => dropLine rest
      | some (value, rest) => endLine (named? name (some value)) rest
    | rest => endLine (named? name none) rest

def linesUpTo : Nat → List Char → List Binding
  | 0, _ => []
  | n + 1, cs =>
    match cs.dropWhile Text.isBlank with
    | [] => []
    | cs =>
      let (b, rest) := line cs
      b.toList ++ linesUpTo n rest

def read (cs : List Char) : List Binding := linesUpTo cs.length cs

def mention? (cs : List Char) : Option (String × String × List Char) :=
  let name := cs.takeWhile fun c => c != '}' && c != ':'
  match cs.drop name.length with
  | '}' :: rest => some (String.ofList name, "", rest)
  | ':' :: '-' :: rest =>
    match rest.dropWhile (· != '}') with
    | [] => none
    | _ :: after => some (String.ofList name, String.ofList (rest.takeWhile (· != '}')), after)
  | _ => none

def mentions : List Char → List String
  | [] => []
  | c :: cs =>
    let here : Option String := match c, cs with
      | '$', '{' :: body => (mention? body).map fun m => m.1
      | _, _ => none
    here.toList ++ mentions cs

def variableNames (cs : List Char) : List String :=
  (read cs).flatMap fun b => b.name :: mentions (b.value.getD [])

def expandUpTo (lookup : String → Option String) : Nat → List Char → List Char
  | 0, cs => cs
  | _, [] => []
  | n + 1, c :: cs =>
    match c, cs with
    | '$', '{' :: body =>
      match mention? body with
      | some (name, fallback, rest) =>
        ((lookup name).getD fallback).toList ++ expandUpTo lookup n rest
      | none => c :: expandUpTo lookup n cs
    | _, _ => c :: expandUpTo lookup n cs

def expand (lookup : String → Option String) (cs : List Char) : List Char :=
  expandUpTo lookup cs.length cs

/-- The values of the bindings, in which the environment goes before what the file says so far. A
variable without a value is empty where it is named. -/
def resolve (env : Environment) : List Binding → Dict String (Option String) →
    Dict String (Option String)
  | [], known => known
  | b :: bs, known =>
    let lookup name := (env.get? name).or ((known.get? name).map fun v => v.getD "")
    resolve env bs (known.put b.name (b.value.map fun cs => String.ofList (expand lookup cs)))

def isStorable (name value : String) : Bool :=
  !name.toList.contains '=' && !name.toList.contains '\x00' && !value.toList.contains '\x00'

def addAll : List (String × Option String) → Environment → Except Fault Environment
  | [], env => .ok env
  | (name, value) :: es, env =>
    match env.contains name, value with
    | false, some v => if isStorable name v then addAll es (env.put name v) else .error (.data .value)
    | _, _ => addAll es env

def extend (env : Environment) (cs : List Char) : Except Fault Environment :=
  addAll (resolve env (read cs) .empty).entries env

end EnvFile

end Runbook
