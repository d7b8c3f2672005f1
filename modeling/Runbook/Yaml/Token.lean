namespace Runbook.Yaml

/-- Why a text holds no data. -/
inductive ReadFault where
  | malformed
  /-- An escape names a character past the last one. -/
  | noCharacter
  | tooLarge
  /-- A text does not have the form of the number or the date that its tag says. -/
  | badNumber
  | badDate
  | noDate
  /-- Something else stands where a date is read. -/
  | noText
  | emptyNumber
  /-- A word is no truth value. -/
  | badWord
deriving DecidableEq, Repr

inductive Directive where
  | version (major : Nat)
  | tag (handle stem : String)
  | other
deriving DecidableEq, Repr

inductive Token where
  | directive (d : Directive)
  | documentStart
  | documentEnd
  | blockSequence
  | blockMapping
  | blockEnd
  | flowSequence
  | flowSequenceEnd
  | flowMapping
  | flowMappingEnd
  | blockEntry
  | flowEntry
  | key
  | value
  | alias (name : String)
  | anchor (name : String)
  | tag (handle : Option String) (suffix : String)
  | scalar (plain : Bool) (text : String)
  /-- The rest of a text that goes on wrongly. -/
  | bad (fault : ReadFault)
deriving DecidableEq, Repr

/-- What is still to be read, and where it stands. -/
structure Cursor where
  rest : List Char
  line : Nat
  column : Nat
  index : Nat
  /-- More than the text has characters. -/
  bound : Nat

def isBreak (c : Char) : Bool :=
  c == '\n' || c == '\r' || c == '\u0085' || c == '\u2028' || c == '\u2029'

def endsLine (c : Option Char) : Bool := c.all isBreak

def endsWord (c : Option Char) : Bool := endsLine c || c == some ' ' || c == some '\t'

def endsItem (c : Option Char) : Bool := endsLine c || c == some ' '

namespace Cursor

def ofText (cs : List Char) : Cursor := ⟨cs, 0, 0, 0, cs.length + 1⟩

def peek (c : Cursor) (n : Nat) : Option Char := c.rest[n]?

def here (c : Cursor) : Option Char := c.rest.head?

/-- One character on. The byte order mark takes no column. -/
def next (c : Cursor) : Cursor :=
  match c.rest with
  | [] => c
  | ch :: rest =>
    if isBreak ch && !(ch == '\r' && rest.head? == some '\n') then
      { c with rest := rest, line := c.line + 1, column := 0, index := c.index + 1 }
    else if ch == '\uFEFF' then { c with rest := rest, index := c.index + 1 }
    else { c with rest := rest, column := c.column + 1, index := c.index + 1 }

def skip : Nat → Cursor → Cursor
  | 0, c => c
  | n + 1, c => skip n c.next

def span (p : Char → Bool) (c : Cursor) : List Char × Cursor :=
  let cs := c.rest.takeWhile p
  (cs, c.skip cs.length)

def skipWhile (p : Char → Bool) (c : Cursor) : Cursor := (c.span p).2

def lineBreak? (c : Cursor) : Option (Char × Cursor) :=
  match c.rest with
  | '\r' :: '\n' :: _ => some ('\n', c.skip 2)
  | ch :: _ =>
    if ch == '\u2028' || ch == '\u2029' then some (ch, c.next)
    else if isBreak ch then some ('\n', c.next)
    else none
  | [] => none

def atMarker (c : Cursor) (mark : Char) : Bool :=
  c.rest.take 3 == [mark, mark, mark] && endsWord (c.peek 3)

def atSeparator (c : Cursor) : Bool := c.atMarker '-' || c.atMarker '.'

def skipRemark (c : Cursor) : Cursor :=
  let c := c.skipWhile (· == ' ')
  if c.here == some '#' then c.skipWhile (!isBreak ·) else c

end Cursor

end Runbook.Yaml
