import Runbook.Json
import Runbook.Number.Numeral

namespace Runbook.Json.Token

def isSpace (c : Char) : Bool :=
  c == ' ' || c == '\t' || c == '\n' || c == '\r'

def hexValue? (c : Char) : Option Nat :=
  if '0' ≤ c ∧ c ≤ '9' then some (c.toNat - 48)
  else if 'a' ≤ c ∧ c ≤ 'f' then some (c.toNat - 87)
  else if 'A' ≤ c ∧ c ≤ 'F' then some (c.toNat - 55)
  else none

def unit? : List Char → Option (Nat × List Char)
  | a :: b :: c :: d :: cs =>
    match hexValue? a, hexValue? b, hexValue? c, hexValue? d with
    | some a, some b, some c, some d => some (((a * 16 + b) * 16 + c) * 16 + d, cs)
    | _, _, _, _ => none
  | _ => none

/-- The character of a `\u` escape after its `u`. Two halves make one character, and a half that
stands alone makes none. -/
def escapedUnit? (cs : List Char) : Option (Char × List Char) :=
  match unit? cs with
  | none => none
  | some (high, rest) =>
    if 0xD800 ≤ high ∧ high < 0xDC00 then
      match rest with
      | '\\' :: 'u' :: more =>
        match unit? more with
        | some (low, rest) =>
          if 0xDC00 ≤ low ∧ low < 0xE000 then
            some (Char.ofNat (0x10000 + (high - 0xD800) * 0x400 + (low - 0xDC00)), rest)
          else none
        | none => none
      | _ => none
    else if 0xDC00 ≤ high ∧ high < 0xE000 then none
    else some (Char.ofNat high, rest)

def escaped? : List Char → Option (Char × List Char)
  | '"' :: cs => some ('"', cs)
  | '\\' :: cs => some ('\\', cs)
  | '/' :: cs => some ('/', cs)
  | 'b' :: cs => some ('\x08', cs)
  | 'f' :: cs => some ('\x0c', cs)
  | 'n' :: cs => some ('\n', cs)
  | 'r' :: cs => some ('\r', cs)
  | 't' :: cs => some ('\t', cs)
  | 'u' :: cs => escapedUnit? cs
  | _ => none

def quoted? : Nat → List Char → Option (List Char × List Char)
  | 0, _ => none
  | _ + 1, [] => none
  | _ + 1, '"' :: cs => some ([], cs)
  | fuel + 1, '\\' :: cs =>
    match escaped? cs with
    | some (c, rest) => (quoted? fuel rest).map fun r => (c :: r.1, r.2)
    | none => none
  | fuel + 1, c :: cs =>
    if c.toNat < 0x20 then none else (quoted? fuel cs).map fun r => (c :: r.1, r.2)

def isDigit (c : Char) : Bool := '0' ≤ c && c ≤ '9'

/-- A whole number is `0` or starts with another digit. -/
def whole? (cs : List Char) : Option (List Char × List Char) :=
  match cs.takeWhile isDigit, cs.dropWhile isDigit with
  | [], _ => none
  | ['0'], rest => some (['0'], rest)
  | '0' :: _, _ => none
  | ds, rest => some (ds, rest)

def fraction? : List Char → Option (List Char × List Char)
  | '.' :: cs =>
    match cs.takeWhile isDigit with
    | [] => none
    | ds => some (ds, cs.dropWhile isDigit)
  | cs => some ([], cs)

def signedWhole (negative : Bool) (ds : List Char) : Except ReadFault Json :=
  match Numeral.digits? ds with
  | some n => .ok (.int (Numeral.signed negative n))
  | none => .error .longNumber

def number (cs : List Char) : Except ReadFault Json :=
  let (negative, body) :=
    match cs with
    | '-' :: cs => (true, cs)
    | _ => (false, cs)
  match whole? body with
  | none => .error .malformed
  | some (whole, []) => signedWhole negative whole
  | some (whole, rest) =>
    match fraction? rest with
    | none => .error .malformed
    | some (fraction, rest) =>
      match Numeral.exponent? rest with
      | none => .error .malformed
      | some e =>
        let digits := (whole ++ fraction).map fun c => c.toNat - 48
        .ok (.float (Binary64.ofDecimal negative
          ⟨Numeral.digitsValue digits, e - fraction.length⟩))

/-- The document that a run of word and number characters is. -/
def word (cs : List Char) : Except ReadFault Json :=
  match String.ofList cs with
  | "null" => .ok .null
  | "true" => .ok (.bool true)
  | "false" => .ok (.bool false)
  | "NaN" => .ok (.float .nan)
  | "Infinity" => .ok (.float (.infinite false))
  | "-Infinity" => .ok (.float (.infinite true))
  | _ => number cs

def isWordChar (c : Char) : Bool :=
  c.isAlphanum || c == '-' || c == '+' || c == '.'

def scan : Nat → List Char → List Token
  | 0, _ => [bad .malformed]
  | _ + 1, [] => []
  | fuel + 1, c :: cs =>
    if isSpace c then scan fuel cs
    else if c = '[' then openList :: scan fuel cs
    else if c = ']' then closeList :: scan fuel cs
    else if c = '{' then openMap :: scan fuel cs
    else if c = '}' then closeMap :: scan fuel cs
    else if c = ',' then comma :: scan fuel cs
    else if c = ':' then colon :: scan fuel cs
    else if c = '"' then
      match quoted? (cs.length + 1) cs with
      | some (s, rest) => text (String.ofList s) :: scan fuel rest
      | none => [bad .malformed]
    else if isWordChar c then
      match word (c :: cs.takeWhile isWordChar) with
      | .ok j => atom j :: scan fuel (cs.dropWhile isWordChar)
      | .error f => [bad f]
    else [bad .malformed]

def ofText (cs : List Char) : List Token := scan (cs.length + 1) cs

end Runbook.Json.Token
