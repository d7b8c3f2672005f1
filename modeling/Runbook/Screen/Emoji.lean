import Runbook.Text.Blank
import Runbook.Text.Case
import Runbook.Screen.EmojiTable

namespace Runbook.Screen

def pairs : List (List Char) → List (List Char × List Char)
  | a :: b :: rest => (a, b) :: pairs rest
  | _ => []

def wordsOf (cs : List Char) : List (List Char) :=
  (cs.splitBy fun a b => Text.isBlank a == Text.isBlank b).filter fun w => !w.any Text.isBlank

def emojiEntries : List (List Char × List Char) :=
  emojiTexts.flatMap fun s => pairs (wordsOf s.toList)

def emoji? (name : List Char) : Option (List Char) :=
  let key := (Text.lower (String.ofList name)).toList
  (emojiEntries.find? (·.1 == key)).map (·.2)

/-- The end of a code: a colon, or a variant and a colon. What follows it is the second part. -/
def codeEnd? (cs : List Char) : Option (List Char × List Char) :=
  if "-emoji:".toList.isPrefixOf cs then some (['\ufe0f'], cs.drop 7)
  else if "-text:".toList.isPrefixOf cs then some (['\ufe0e'], cs.drop 6)
  else
    match cs with
    | ':' :: rest => some ([], rest)
    | _ => none

def codeFrom? : List Char → Option (List Char × List Char × List Char)
  | [] => none
  | c :: cs =>
    match codeEnd? (c :: cs) with
    | some (variant, rest) => some ([], variant, rest)
    | none =>
      if Text.isBlank c then none
      else (codeFrom? cs).map fun r => (c :: r.1, r.2.1, r.2.2)

def replaceCodes (skip : Nat) : List Char → List Char
  | [] => []
  | c :: cs =>
    match skip with
    | skip + 1 => replaceCodes skip cs
    | 0 =>
      if c = ':' then
        match codeFrom? cs with
        | some (name, variant, rest) =>
          let length := cs.length - rest.length
          let written :=
            match emoji? name with
            | some e => e ++ variant
            | none => c :: cs.take length
          written ++ replaceCodes length cs
        | none => c :: replaceCodes 0 cs
      else c :: replaceCodes 0 cs

end Runbook.Screen
