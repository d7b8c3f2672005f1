import Runbook.Screen.Emoji
import Runbook.Screen.Literal
import Runbook.Screen.Style
import Runbook.Screen.Width
import Runbook.Screen.WordTable

namespace Runbook.Screen.Markup

def isTagStart (c : Char) : Bool :=
  ('a' ≤ c && c ≤ 'z') || c == '#' || c == '/' || c == '@'

def tag? : List Char → Option (List Char × List Char)
  | '[' :: c :: cs =>
    let body := cs.takeWhile fun x => x != '[' && x != ']'
    match cs.dropWhile fun x => x != '[' && x != ']' with
    | ']' :: rest => if isTagStart c then some (c :: body, rest) else none
    | _ => none
  | _ => none

def endsWithOneBackslash (cs : List Char) : Bool :=
  match cs.reverse with
  | '\\' :: '\\' :: _ => false
  | '\\' :: _ => true
  | _ => false

/-- Double the backslashes before what looks like a tag, and put one more in front of it; `slashes`
counts those that have been read. -/
def escapeFrom (slashes : Nat) : List Char → List Char
  | [] => List.replicate slashes '\\'
  | c :: cs =>
    if c = '\\' then escapeFrom (slashes + 1) cs
    else if (tag? (c :: cs)).isSome then
      List.replicate (2 * slashes + 1) '\\' ++ c :: escapeFrom 0 cs
    else List.replicate slashes '\\' ++ c :: escapeFrom 0 cs

def escape (s : String) : List Char :=
  let cs := escapeFrom 0 s.toList
  if endsWithOneBackslash cs then cs ++ ['\\'] else cs

def styled (name : String) (cs : List Char) : List Char :=
  '[' :: (name.toList ++ ']' :: (cs ++ '[' :: '/' :: (name.toList ++ [']'])))

inductive Part where
  | text (cs : List Char)
  /-- What stands between the brackets. -/
  | tag (body : List Char)

def addText (cs : List Char) : List Part → List Part
  | .text ds :: ps => .text (cs ++ ds) :: ps
  | ps => .text cs :: ps

/-- The parts after the first `skip` characters. A text that follows a tag or an escaped tag is a
part of its own. -/
def parts (skip slashes : Nat) : List Char → List Part
  | [] => if slashes = 0 then [] else [.text (List.replicate slashes '\\')]
  | c :: cs =>
    match skip with
    | skip + 1 => parts skip 0 cs
    | 0 =>
      if c = '\\' then parts 0 (slashes + 1) cs
      else
        match tag? (c :: cs) with
        | none => addText (List.replicate slashes '\\' ++ [c]) (parts 0 0 cs)
        | some (body, rest) =>
          let literal : List Part :=
            if slashes < 2 then [] else [.text (List.replicate (slashes / 2) '\\')]
          let after := parts (cs.length - rest.length) 0 cs
          if slashes % 2 = 1 then .text [] :: (literal ++ .text ('[' :: (body ++ [']'])) :: after)
          else .text [] :: (literal ++ .tag body :: after)

/-- A tag, its name in the form in which names are compared. -/
structure Tag where
  name : List Char
  parameters : Option (List Char)
deriving DecidableEq

namespace Tag

def style (t : Tag) : List Char :=
  match t.parameters with
  | none => t.name
  | some ps => t.name ++ ' ' :: ps

def isHandler (t : Tag) : Bool := t.name.head? == some '@'

/-- What a handler is given: the parentheses after its name, none if a name is all there is, and else
the whole text. -/
def given (parameters : List Char) : List Char :=
  let cs := Text.strip parameters
  let rest := cs.dropWhile fun c => c == '.' || inTable wordRanges c
  if rest.isEmpty then "()".toList
  else if rest.head? == some '(' && rest.getLast? == some ')' && !rest.contains '\n' then rest
  else cs

/-- A handler has to be given a value. -/
def isReadable (names : List Char → Bool) (t : Tag) : Bool :=
  !t.isHandler || t.parameters.all fun ps => ps.isEmpty || isLiteral names (given ps)

/-- A closing tag closes the innermost tag of its name, or the innermost at all if it has none. -/
def closedBy (name : Option (List Char)) (t : Tag) : Bool := name.all (t.name == ·)

end Tag

inductive Change where
  | opens (t : Tag)
  | closes (name : Option (List Char))
deriving DecidableEq

def Change.read (body : List Char) : Except Fault Change :=
  let (name, parameters) := Text.cutFirst '=' body
  match name with
  | '/' :: rest =>
    let closed := Text.strip rest
    if closed.isEmpty then .ok (.closes none)
    else (Style.normalize closed).map fun n => .closes (some n)
  | _ => (Style.normalize name).map fun n => .opens ⟨n, parameters⟩

/-- Codes that do not show: bell, backspace, vertical tab, form feed and carriage return. -/
def isStripped (c : Char) : Bool :=
  let n := c.toNat
  n == 7 || n == 8 || n == 11 || n == 12 || n == 13

def showText (cs : List Char) : List Char :=
  (replaceCodes 0 (Text.replaceAll ['\\', '['] ['['] cs)).filter (!isStripped ·)

/-- From where to where a text has a style. -/
structure Span where
  start : Nat
  stop : Nat
  style : List Char

/-- A tag that is open, and where in the text that is shown. -/
structure Opened where
  tag : Tag
  start : Nat

def Opened.span (o : Opened) (stop : Nat) : Span := ⟨o.start, stop, o.tag.style⟩

structure Shown where
  text : List Char
  spans : List Span

section

variable (names : List Char → Bool)

/-- What the parts show after so many characters. The text of a handler has no style to be read. -/
def renderParts (opened : List Opened) (position : Nat) : List Part → Except Fault Shown
  | [] => .ok ⟨[], opened.map (·.span position)⟩
  | .text cs :: ps =>
    let shown := showText cs
    (renderParts opened (position + shown.length) ps).map fun x =>
      { x with text := shown ++ x.text }
  | .tag body :: ps =>
    match Change.read body with
    | .error f => .error f
    | .ok (.opens t) => renderParts (⟨t, position⟩ :: opened) position ps
    | .ok (.closes name) =>
      match opened.find? (·.tag.closedBy name) with
      | none => .error .markup
      | some o =>
        if o.tag.isReadable names then
          (renderParts (opened.eraseP (·.tag.closedBy name)) position ps).map fun x =>
            if o.tag.isHandler then x else { x with spans := o.span position :: x.spans }
        else .error .markup

def render (cs : List Char) : Except Fault Shown :=
  if cs.contains '[' then renderParts names [] 0 (parts 0 0 cs)
  else .ok ⟨(replaceCodes 0 cs).filter (!isStripped ·), []⟩

end

end Runbook.Screen.Markup
