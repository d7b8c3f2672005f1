import Runbook.Json

namespace Runbook.Json

structure Style where
  comma : String
  colon : String
  /-- Whether characters past `~` are escaped. -/
  asciiOnly : Bool
  numbers : NumberLayout

namespace Style

def hexDigit (n : Nat) : Char :=
  if n < 10 then Char.ofNat (48 + n) else Char.ofNat (87 + n)

def unitEscape (n : Nat) : List Char :=
  ['\\', 'u', hexDigit (n / 4096 % 16), hexDigit (n / 256 % 16), hexDigit (n / 16 % 16),
    hexDigit (n % 16)]

def unitEscapes (n : Nat) : List Char :=
  if n < 0x10000 then unitEscape n
  else unitEscape (0xD800 + (n - 0x10000) / 0x400) ++ unitEscape (0xDC00 + (n - 0x10000) % 0x400)

def charText (asciiOnly : Bool) (c : Char) : List Char :=
  if c = '"' then ['\\', '"']
  else if c = '\\' then ['\\', '\\']
  else if c = '\n' then ['\\', 'n']
  else if c = '\r' then ['\\', 'r']
  else if c = '\t' then ['\\', 't']
  else if c = '\x08' then ['\\', 'b']
  else if c = '\x0c' then ['\\', 'f']
  else if c.toNat < 0x20 || (asciiOnly && 0x7F ≤ c.toNat) then unitEscapes c.toNat
  else [c]

def quotedText (asciiOnly : Bool) (s : String) : List Char :=
  '"' :: (s.toList.flatMap (charText asciiOnly) ++ ['"'])

mutual

def chars (st : Style) : Json → List Char
  | .null => "null".toList
  | .bool b => (if b then "true" else "false").toList
  | .int n => intDigits n
  | .float x => (st.numbers.text x).toList
  | .str s => quotedText st.asciiOnly s
  | .list [] => ['[', ']']
  | .list (j :: js) => '[' :: (chars st j ++ itemChars st js)
  | .map [] => ['{', '}']
  | .map ((k, j) :: es) =>
    '{' :: (quotedText st.asciiOnly k ++ st.colon.toList ++ chars st j ++ entryChars st es)

def itemChars (st : Style) : List Json → List Char
  | [] => [']']
  | j :: js => st.comma.toList ++ chars st j ++ itemChars st js

def entryChars (st : Style) : List (String × Json) → List Char
  | [] => ['}']
  | (k, j) :: es =>
    st.comma.toList ++ quotedText st.asciiOnly k ++ st.colon.toList ++ chars st j ++ entryChars st es

end

def text (st : Style) (j : Json) : String := String.ofList (st.chars j)

end Style

end Runbook.Json
