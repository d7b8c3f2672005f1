import Runbook.Text.Utf8
import Runbook.Yaml.Scalar

namespace Runbook.Yaml

structure KeyCandidate where
  /-- The bracket depth at which it stands. -/
  level : Nat
  /-- How many groups of tokens precede it. -/
  position : Nat
  /-- Whether it has to be a key. -/
  required : Bool
  index : Nat
  line : Nat
  column : Nat

structure Lexer where
  cursor : Cursor
  /-- The tokens so far in groups, latest first. A key is put in front of a group afterwards. -/
  groups : List (List Token)
  /-- How many groups there are. -/
  count : Nat
  level : Nat
  indent : Int
  /-- The indentations around the present one. -/
  outer : List Int
  keyAllowed : Bool
  candidates : List KeyCandidate

namespace Lexer

def ofText (cs : List Char) : Lexer := ⟨.ofText cs, [], 0, 0, -1, [], true, []⟩

def tokens (s : Lexer) : List Token := s.groups.reverse.flatten

def emit (t : Token) (s : Lexer) : Lexer :=
  { s with groups := [t] :: s.groups, count := s.count + 1 }

def insertAt (position : Nat) (ts : List Token) (s : Lexer) : Lexer :=
  { s with groups := s.groups.modify (s.count - 1 - position) (ts ++ ·) }

def move (c : Cursor) (s : Lexer) : Lexer := { s with cursor := c }

def column (s : Lexer) : Int := s.cursor.column

def skipBlank : Nat → Lexer → Lexer
  | 0, s => s
  | fuel + 1, s =>
    let s := s.move s.cursor.skipRemark
    match s.cursor.lineBreak? with
    | none => s
    | some (_, c) => skipBlank fuel { s.move c with keyAllowed := s.keyAllowed || s.level == 0 }

def toNext (s : Lexer) : Lexer :=
  let s :=
    if s.cursor.index == 0 && s.cursor.here == some '\uFEFF' then s.move s.cursor.next else s
  s.skipBlank s.cursor.bound

/-- A candidate has to be followed by its colon on the same line and within 1024 characters. -/
def isStale (s : Lexer) (k : KeyCandidate) : Bool :=
  k.line != s.cursor.line || 1024 < s.cursor.index - k.index

def dropStale (s : Lexer) : Except ReadFault Lexer :=
  let (stale, fresh) := s.candidates.partition s.isStale
  if stale.any (·.required) then .error .malformed else .ok { s with candidates := fresh }

def dropCandidate (s : Lexer) : Except ReadFault Lexer :=
  let (here, others) := s.candidates.partition (·.level == s.level)
  if here.any (·.required) then .error .malformed else .ok { s with candidates := others }

/-- The next token may be a key; at the start of a line of a block it has to be one. -/
def saveCandidate (s : Lexer) : Except ReadFault Lexer :=
  if s.keyAllowed then
    s.dropCandidate.map fun s =>
      let k : KeyCandidate := {
        level := s.level
        position := s.count
        required := s.level == 0 && s.indent == s.column
        index := s.cursor.index
        line := s.cursor.line
        column := s.cursor.column }
      { s with candidates := k :: s.candidates }
  else .ok s

def closeBlocks (column : Int) : List Int → Lexer → Lexer
  | [], s => s
  | i :: outer, s =>
    if column < s.indent then
      closeBlocks column outer { s.emit .blockEnd with indent := i, outer := outer }
    else s

def unwind (column : Int) (s : Lexer) : Lexer :=
  if s.level == 0 then closeBlocks column s.outer s else s

def deepen (column : Int) (s : Lexer) : Bool × Lexer :=
  if s.indent < column then (true, { s with indent := column, outer := s.indent :: s.outer })
  else (false, s)

def openBlock (t : Token) (s : Lexer) : Lexer :=
  let (opened, s) := s.deepen s.column
  if opened then s.emit t else s

def take (n : Nat) (t : Token) (s : Lexer) : Lexer := (s.move (s.cursor.skip n)).emit t

def isNameChar (c : Char) : Bool := c.isAlphanum || c == '-' || c == '_'

def number (c : Cursor) : Except ReadFault (Nat × Cursor) :=
  let (ds, c) := c.span fun ch => '0' ≤ ch && ch ≤ '9'
  if ds.isEmpty then .error .malformed
  else if Numeral.digitLimit < ds.length then .error .badNumber
  else .ok (Numeral.digitsValue (ds.map fun d => d.toNat - 48), c)

def uriBytes : Nat → Cursor → Except ReadFault (List UInt8 × Cursor)
  | 0, _ => .error .malformed
  | fuel + 1, c =>
    match c.rest with
    | '%' :: a :: b :: _ =>
      match hexNumber? [a, b] with
      | some n => (uriBytes fuel (c.skip 3)).map fun r => (UInt8.ofNat n :: r.1, r.2)
      | none => .error .malformed
    | '%' :: _ => .error .malformed
    | _ => .ok ([], c)
where
  hexNumber? (cs : List Char) : Option Nat := Cursor.hexNumber? cs

def isUriChar (c : Char) : Bool := c.isAlphanum || "-;/?:@&=+$,_.!~*'()[]".toList.contains c

def uriFrom : Nat → Cursor → Except ReadFault (List Char × Cursor)
  | 0, _ => .error .malformed
  | fuel + 1, c =>
    match c.rest with
    | '%' :: _ =>
      match uriBytes c.bound c with
      | .error f => .error f
      | .ok (bytes, c) =>
        match Text.Utf8.decode? bytes with
        | some cs => (uriFrom fuel c).map fun r => (cs ++ r.1, r.2)
        | none => .error .malformed
    | ch :: _ =>
      if isUriChar ch then (uriFrom fuel c.next).map fun r => (ch :: r.1, r.2) else .ok ([], c)
    | [] => .ok ([], c)

/-- The address or the rest of one in a tag; it is not empty, but what its escapes stand for may
be. -/
def uri (c : Cursor) : Except ReadFault (String × Cursor) :=
  if c.here.any fun ch => isUriChar ch || ch == '%' then
    (uriFrom c.bound c).map fun r => (String.ofList r.1, r.2)
  else .error .malformed

def handle (c : Cursor) : Except ReadFault (String × Cursor) :=
  if c.here != some '!' then .error .malformed
  else
    let (name, after) := c.next.span isNameChar
    if after.here == some '!' then
      .ok (String.ofList ('!' :: (name ++ ['!'])), after.next)
    else if name.isEmpty && after.here == some ' ' then .ok ("!", after)
    else .error .malformed

def directiveBody (name : List Char) (c : Cursor) : Except ReadFault (Directive × Cursor) :=
  let c' := c.skipWhile (· == ' ')
  if name == "YAML".toList then
    match number c' with
    | .error f => .error f
    | .ok (major, c) =>
      if c.here != some '.' then .error .malformed
      else
        match number c.next with
        | .error f => .error f
        | .ok (_, c) => if endsItem c.here then .ok (.version major, c) else .error .malformed
  else if name == "TAG".toList then
    match handle c' with
    | .error f => .error f
    | .ok (h, c) =>
      if c.here != some ' ' then .error .malformed
      else
        match uri (c.skipWhile (· == ' ')) with
        | .error f => .error f
        | .ok (stem, c) => if endsItem c.here then .ok (.tag h stem, c) else .error .malformed
  else .ok (.other, c.skipWhile (!isBreak ·))

def directive (s : Lexer) : Except ReadFault Lexer :=
  match (s.unwind (-1)).dropCandidate with
  | .error f => .error f
  | .ok s =>
    let (name, c) := s.cursor.next.span isNameChar
    if name.isEmpty || !endsItem c.here then .error .malformed
    else
      match directiveBody name c with
      | .error f => .error f
      | .ok (d, c) =>
        let c := c.skipRemark
        if !endsLine c.here then .error .malformed
        else
          let s := s.move (c.lineBreak?.elim c (·.2))
          .ok ({ s with keyAllowed := false }.emit (.directive d))

def documentMark (t : Token) (s : Lexer) : Except ReadFault Lexer :=
  (s.unwind (-1)).dropCandidate.map fun s => { s with keyAllowed := false }.take 3 t

def openFlow (t : Token) (s : Lexer) : Except ReadFault Lexer :=
  s.saveCandidate.map fun s => { s with level := s.level + 1, keyAllowed := true }.take 1 t

def closeFlow (t : Token) (s : Lexer) : Except ReadFault Lexer :=
  s.dropCandidate.map fun s => { s with level := s.level - 1, keyAllowed := false }.take 1 t

def flowEntry (s : Lexer) : Except ReadFault Lexer :=
  s.dropCandidate.map fun s => { s with keyAllowed := true }.take 1 .flowEntry

def blockEntry (s : Lexer) : Except ReadFault Lexer :=
  if s.level == 0 && !s.keyAllowed then .error .malformed
  else
    let s := if s.level == 0 then s.openBlock .blockSequence else s
    s.dropCandidate.map fun s => { s with keyAllowed := true }.take 1 .blockEntry

def key (s : Lexer) : Except ReadFault Lexer :=
  if s.level == 0 && !s.keyAllowed then .error .malformed
  else
    let s := if s.level == 0 then s.openBlock .blockMapping else s
    s.dropCandidate.map fun s => { s with keyAllowed := s.level == 0 }.take 1 .key

def value (s : Lexer) : Except ReadFault Lexer :=
  match s.candidates.find? (·.level == s.level) with
  | some k =>
    let s := { s with candidates := s.candidates.filter (·.level != s.level), keyAllowed := false }
    let (opened, s) := if s.level == 0 then s.deepen k.column else (false, s)
    .ok ((s.insertAt k.position (if opened then [.blockMapping, .key] else [.key])).take 1 .value)
  | none =>
    if s.level == 0 && !s.keyAllowed then .error .malformed
    else
      let s := if s.level == 0 then s.openBlock .blockMapping else s
      { s with keyAllowed := s.level == 0 }.dropCandidate.map (take 1 .value)

/-- A token that may be a key and after which none may follow at once. -/
def keyLike (s : Lexer) (read : Lexer → Except ReadFault (Token × Cursor)) :
    Except ReadFault Lexer :=
  match s.saveCandidate with
  | .error f => .error f
  | .ok s => (read s).map fun r => ({ s with keyAllowed := false }.move r.2).emit r.1

def endsName (c : Option Char) : Bool := endsWord c || c.any ("?:,]\x7d%@\x60".toList.contains ·)

def named (token : String → Token) (s : Lexer) : Except ReadFault (Token × Cursor) :=
  let (name, c) := s.cursor.next.span isNameChar
  if name.isEmpty || !endsName c.here then .error .malformed
  else .ok (token (String.ofList name), c)

def hasHandle (c : Cursor) : Bool :=
  (c.rest.drop 1).takeWhile (fun ch => !(endsItem (some ch))) |>.contains '!'

def tag (s : Lexer) : Except ReadFault (Token × Cursor) :=
  let c := s.cursor
  let finish (handle : Option String) (r : Except ReadFault (String × Cursor)) :
      Except ReadFault (Token × Cursor) :=
    match r with
    | .error f => .error f
    | .ok (suffix, c) =>
      if endsItem c.here then .ok (.tag handle suffix, c) else .error .malformed
  if c.peek 1 == some '<' then
    match uri (c.skip 2) with
    | .error f => .error f
    | .ok (suffix, c) =>
      if c.here == some '>' then finish none (.ok (suffix, c.next)) else .error .malformed
  else if endsWord (c.peek 1) then finish none (.ok ("!", c.next))
  else if hasHandle c then
    match handle c with
    | .error f => .error f
    | .ok (h, c) => finish (some h) (uri c)
  else finish (some "!") (uri c.next)

def blockScalar (fold : Bool) (s : Lexer) : Except ReadFault Lexer :=
  match s.dropCandidate with
  | .error f => .error f
  | .ok s =>
    (s.cursor.block fold s.indent).map fun r =>
      ({ s with keyAllowed := true }.move r.2).emit (.scalar false (String.ofList r.1))

def quotedScalar (double : Bool) (s : Lexer) : Except ReadFault Lexer :=
  s.keyLike fun s =>
    (s.cursor.quoted double).map fun r => (.scalar false (String.ofList r.1), r.2)

def plainScalar (s : Lexer) : Except ReadFault Lexer :=
  s.saveCandidate.map fun s =>
    let (text, crossed, c) := s.cursor.plain (s.level != 0) (s.indent + 1)
    ({ s with keyAllowed := crossed }.move c).emit (.scalar true (String.ofList text))

def startsPlain (s : Lexer) (ch : Char) : Bool :=
  !(endsWord (some ch) || "-?:,[]\x7b\x7d#&*!|>'\"%@\x60".toList.contains ch) ||
    (!endsWord (s.cursor.peek 1) && (ch == '-' || (s.level == 0 && (ch == '?' || ch == ':'))))

/-- The next tokens; at the end of the text, which the second part tells, the blocks are closed. -/
def step (s : Lexer) : Except ReadFault (Lexer × Bool) :=
  match s.toNext.dropStale with
  | .error f => .error f
  | .ok s =>
    let s := s.unwind s.column
    let more (r : Except ReadFault Lexer) : Except ReadFault (Lexer × Bool) := r.map (·, false)
    let inFlow := s.level != 0
    let beforeWord := endsWord (s.cursor.peek 1)
    match s.cursor.here with
    | none => (s.unwind (-1)).dropCandidate.map (·, true)
    | some ch =>
      if ch = '%' ∧ s.cursor.column = 0 then more s.directive
      else if s.cursor.column = 0 ∧ s.cursor.atMarker '-' then more (s.documentMark .documentStart)
      else if s.cursor.column = 0 ∧ s.cursor.atMarker '.' then more (s.documentMark .documentEnd)
      else if ch = '[' then more (s.openFlow .flowSequence)
      else if ch = '{' then more (s.openFlow .flowMapping)
      else if ch = ']' then more (s.closeFlow .flowSequenceEnd)
      else if ch = '}' then more (s.closeFlow .flowMappingEnd)
      else if ch = ',' then more s.flowEntry
      else if ch = '-' ∧ beforeWord then more s.blockEntry
      else if ch = '?' ∧ (inFlow ∨ beforeWord) then more s.key
      else if ch = ':' ∧ (inFlow ∨ beforeWord) then more s.value
      else if ch = '*' then more (s.keyLike (named .alias))
      else if ch = '&' then more (s.keyLike (named .anchor))
      else if ch = '!' then more (s.keyLike tag)
      else if ch = '|' ∧ ¬inFlow then more (s.blockScalar false)
      else if ch = '>' ∧ ¬inFlow then more (s.blockScalar true)
      else if ch = '\'' then more (s.quotedScalar false)
      else if ch = '"' then more (s.quotedScalar true)
      else if s.startsPlain ch then more s.plainScalar
      else .error .malformed

/-- The tokens that are settled. Reading goes on past a token that may still turn out to be a key
before it gives it away. -/
def settled (s : Lexer) : List Token :=
  let open_ := (s.candidates.filter fun k => !s.isStale k).map (·.position)
  (s.groups.reverse.take (open_.foldl min s.count)).flatten

def run : Nat → Lexer → List Token
  | 0, s => s.tokens ++ [.bad .malformed]
  | fuel + 1, s =>
    match s.step with
    | .error f => s.settled ++ [.bad f]
    | .ok (s, true) => s.tokens
    | .ok (s, false) => run fuel s

end Lexer

def isAllowed (c : Char) : Bool :=
  let n := c.toNat
  n == 0x09 || n == 0x0A || n == 0x0D || (0x20 ≤ n && n ≤ 0x7E) || n == 0x85 ||
    (0xA0 ≤ n && n ≤ 0xD7FF) || (0xE000 ≤ n && n ≤ 0xFFFD) || 0x10000 ≤ n

/-- The tokens of a text; where it goes on wrongly they end with a bad one. -/
def Token.ofText (cs : List Char) : List Token :=
  if cs.all isAllowed then (Lexer.ofText cs).run (2 * cs.length + 2) else [.bad .malformed]

end Runbook.Yaml
