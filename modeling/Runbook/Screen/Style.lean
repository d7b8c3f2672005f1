import Runbook.Fault
import Runbook.Number.Numeral
import Runbook.Screen.ColorTable
import Runbook.Screen.Emoji

namespace Runbook.Screen

def lowered (cs : List Char) : List Char := Text.lowerFrom [] cs

/-- Why a text gives no style. -/
inductive StyleFault where
  | noStyle
  /-- A part of a color is missing or too long, which stops who reads it. -/
  | badNumber

def argument? (name : String) (cs : List Char) : Option (List Char) :=
  let front := name.toList ++ ['(']
  if front.isPrefixOf cs && cs.getLast? == some ')' then some (cs.drop front.length).dropLast
  else none

namespace Color

def checkNumber (digits : List Char) : Except StyleFault Unit :=
  if !digits.isEmpty && digits.length ≤ 3 && digits.all Char.isDigit &&
      (Numeral.int? digits).any (· ≤ 255) then .ok ()
  else .error .noStyle

def checkParts (parts : List Char) : Except StyleFault Unit :=
  if !parts.isEmpty && parts.all (fun c => c == ',' || (Text.decimalValue? c).isSome) then
    match (Text.cutAt ',' parts).map Numeral.int? with
    | [some r, some g, some b] =>
      if r ≤ 255 && g ≤ 255 && b ≤ 255 then .ok () else .error .noStyle
    | [_, _, _] => .error .badNumber
    | _ => .error .noStyle
  else .error .noStyle

def check (name : List Char) : Except StyleFault Unit :=
  if name == "default".toList || colorNames.contains (String.ofList name) then .ok ()
  else
    match argument? "color" name, argument? "rgb" name with
    | some digits, _ => checkNumber digits
    | none, some parts => checkParts parts
    | none, none =>
      match name with
      | '#' :: digits =>
        if digits.length = 6 && digits.all Text.isHexDigit then .ok () else .error .noStyle
      | _ => .error .noStyle

/-- A color is kept as it is spelled, in small letters. -/
def read (word : List Char) : Except StyleFault (List Char) :=
  (check (lowered word)).map fun _ => lowered word

end Color

def attributeNames : List String := [
  "bold", "dim", "italic", "underline", "blink", "blink2", "reverse", "conceal", "strike",
  "underline2", "frame", "encircle", "overline"]

def attributeLetters : List (String × String) := [
  ("b", "bold"), ("d", "dim"), ("i", "italic"), ("u", "underline"), ("r", "reverse"),
  ("c", "conceal"), ("s", "strike"), ("uu", "underline2"), ("o", "overline")]

def attribute? (word : List Char) : Option String :=
  let name := String.ofList word
  if attributeNames.contains name then some name else attributeLetters.lookup name

structure Style where
  /-- Latest first. -/
  attributes : List (String × Bool)
  color : Option (List Char)
  background : Option (List Char)
  link : Option (List Char)

namespace Style

def empty : Style := ⟨[], none, none, none⟩

def set (s : Style) (name : String) (on : Bool) : Style :=
  { s with attributes := (name, on) :: s.attributes }

/-- What the words add to a style; a later one wins over an earlier one. -/
def read (s : Style) : List (List Char) → Except StyleFault Style
  | [] => .ok s
  | w :: ws =>
    let word := lowered w
    if word == "on".toList then
      match ws with
      | [] => .error .noStyle
      | c :: ws =>
        match Color.read c with
        | .error f => .error f
        | .ok c => read { s with background := some c } ws
    else if word == "not".toList then
      match ws with
      | [] => .error .noStyle
      | a :: ws =>
        match attribute? a with
        | none => .error .noStyle
        | some a => read (s.set a false) ws
    else if word == "link".toList then
      match ws with
      | [] => .error .noStyle
      | url :: ws => read { s with link := some url } ws
    else
      match attribute? word with
      | some a => read (s.set a true) ws
      | none =>
        match Color.read word with
        | .error f => .error f
        | .ok c => read { s with color := some c } ws

def parse (cs : List Char) : Except StyleFault Style :=
  if Text.strip cs == "none".toList then .ok empty else read empty (wordsOf cs)

def words (s : Style) : List (List Char) :=
  attributeNames.filterMap (fun a => (s.attributes.lookup a).map fun on =>
      if on then a.toList else "not ".toList ++ a.toList) ++
    s.color.toList ++ s.background.elim [] (fun c => ["on".toList, c]) ++
    s.link.elim [] fun url => ["link".toList, url]

def text (s : Style) : List Char :=
  if s.words.isEmpty then "none".toList else (s.words.intersperse [' ']).flatten

/-- The same text for styles that look the same; what is no style is kept in small letters. -/
def normalize (cs : List Char) : Except Fault (List Char) :=
  match parse cs with
  | .ok s => .ok s.text
  | .error .noStyle => .ok (lowered (Text.strip cs))
  | .error .badNumber => .error (.data .value)

def stops (cs : List Char) : Bool :=
  match parse cs with
  | .error .badNumber => true
  | _ => false

end Style

end Runbook.Screen
