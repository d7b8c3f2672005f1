import Runbook.Number.Numeral

namespace Runbook.Screen

/-- A piece of what is written for a value. -/
inductive Token where
  /-- A number without a sign, and whether it can be taken as a floating-point number. -/
  | number (imaginary fits : Bool)
  | text (isBytes : Bool)
  | constant
  /-- The name of the type of sets. -/
  | set
  /-- A bracket, a sign, a comma or a colon. -/
  | mark (c : Char)
  | lineEnd

namespace Token

def isGrouped (digit : Char → Bool) (cs : List Char) : Bool :=
  (Text.cutAt '_' cs).all fun ds => !ds.isEmpty && ds.all digit

def valueIn (base : Nat) (cs : List Char) : Nat :=
  (cs.filter (· != '_')).foldl (fun n c =>
    base * n + if c.isDigit then c.toNat - 48 else c.toLower.toNat - 87) 0

/-- From here on whole numbers are too large for a floating-point number. -/
def tooLarge : Nat := Nat.pow 2 1024 - Nat.pow 2 970

def whole? (base : Nat) (digit : Char → Bool) (cs : List Char) : Option Token :=
  let ds := match cs with
    | '_' :: ds => ds
    | ds => ds
  if isGrouped digit ds then some (.number false (valueIn base ds < tooLarge)) else none

def isExponent (cs : List Char) : Bool :=
  match cs with
  | '+' :: ds | '-' :: ds => isGrouped Char.isDigit ds
  | ds => isGrouped Char.isDigit ds

def isMantissa (units : List Char) : Option (List Char) → Bool
  | none | some [] => isGrouped Char.isDigit units
  | some ds => (units.isEmpty || isGrouped Char.isDigit units) && isGrouped Char.isDigit ds

/-- A whole number of base ten has no zeros in front and not too many digits; zero is written with
any number of them. -/
def isPlain (cs : List Char) : Bool :=
  let ds := cs.filter (· != '_')
  ds.all (· == '0') || (ds.head? != some '0' && ds.length ≤ Numeral.digitLimit)

def decimal? (cs : List Char) : Option Token :=
  let imaginary := cs.getLast? == some 'j'
  let (mantissa, exponent) := Text.cutFirst 'e' (if imaginary then cs.dropLast else cs)
  let (units, fraction) := Text.cutFirst '.' mantissa
  if isMantissa units fraction && exponent.all isExponent then
    if imaginary || fraction.isSome || exponent.isSome then some (.number imaginary true)
    else if isPlain units then some (.number false (valueIn 10 units < tooLarge))
    else none
  else none

def number? (cs : List Char) : Option Token :=
  match cs with
  | '0' :: 'x' :: ds => whole? 16 Text.isHexDigit ds
  | '0' :: 'o' :: ds => whole? 8 (fun c => '0' ≤ c && c ≤ '7') ds
  | '0' :: 'b' :: ds => whole? 2 (fun c => c == '0' || c == '1') ds
  | ds => decimal? ds

def isNumberPart (c : Char) : Bool := c.isAlphanum || c == '_' || c == '.'

def numberText (cs : List Char) : List Char :=
  let front := cs.takeWhile isNumberPart
  let isBased := match front with
    | '0' :: c :: _ => ['x', 'o', 'b'].contains c.toLower
    | _ => false
  match cs.drop front.length with
  | sign :: d :: rest =>
    if !isBased && front.getLast?.any (·.toLower == 'e') && (sign == '+' || sign == '-') &&
        d.isDigit then
      front ++ sign :: (d :: rest).takeWhile isNumberPart
    else front
  | _ => front

def quoted? (quote : Char) (tripled : Bool) : List Char → Option (List Char)
  | [] => none
  | c :: cs =>
    if c = '\\' then
      match cs with
      | [] => none
      | d :: ds => (quoted? quote tripled ds).map fun inside => c :: d :: inside
    else if c = quote && (!tripled || [quote, quote].isPrefixOf cs) then some []
    else if c = '\n' && !tripled then none
    else (quoted? quote tripled cs).map (c :: ·)

def hasDigits (n : Nat) (cs : List Char) : Bool := n ≤ cs.length && (cs.take n).all Text.isHexDigit

section

-- Which names of characters there are: later tables have more of them.
variable (names : List Char → Bool)

/-- A name of a character between braces. -/
def isNamed (cs : List Char) : Bool :=
  match cs with
  | '{' :: rest =>
    let (name, after) := Text.cutFirst '}' rest
    after.isSome && !name.isEmpty && (name.all fun c => c.isAlphanum || c == ' ' || c == '-') &&
      names name
  | _ => false

/-- Whether every backslash begins something that can be read. -/
def isEscaped (isBytes : Bool) : List Char → Bool
  | '\\' :: c :: cs =>
    (match c with
      | 'x' => hasDigits 2 cs
      | 'u' => isBytes || hasDigits 4 cs
      | 'U' => isBytes || hasDigits 8 cs && valueIn 16 (cs.take 8) ≤ 0x10FFFF
      | 'N' => isBytes || isNamed names cs
      | _ => true) && isEscaped isBytes cs
  | _ :: cs => isEscaped isBytes cs
  | [] => true

def isTextMark (cs : List Char) : Bool := ["", "r", "u", "b", "br", "rb"].contains (String.ofList cs)

def text? (cs : List Char) : Option (Token × Nat) :=
  let letters := cs.takeWhile Char.isAlpha
  let mark := letters.map Char.toLower
  match cs.drop letters.length with
  | quote :: rest =>
    if isTextMark mark && (quote == '\'' || quote == '"') then
      let tripled := [quote, quote].isPrefixOf rest
      let quotes := if tripled then 3 else 1
      match quoted? quote tripled (rest.drop (quotes - 1)) with
      | none => none
      | some inside =>
        let isBytes := mark.contains 'b'
        if (!isBytes || inside.all (·.toNat < 128)) &&
            (mark.contains 'r' || isEscaped names isBytes inside) then
          some (.text isBytes, letters.length + 2 * quotes + inside.length)
        else none
    else none
  | [] => none

def letterS : List Nat := [
  0x73, 0x17f, 0x2e2, 0x209b, 0xff53, 0x1d42c, 0x1d460, 0x1d494, 0x1d4c8, 0x1d4fc, 0x1d530,
  0x1d564, 0x1d598, 0x1d5cc, 0x1d600, 0x1d634, 0x1d668, 0x1d69c]

def letterE : List Nat := [
  0x65, 0x1d49, 0x2091, 0x212f, 0x2147, 0xff45, 0x1d41e, 0x1d452, 0x1d486, 0x1d4ee, 0x1d522,
  0x1d556, 0x1d58a, 0x1d5be, 0x1d5f2, 0x1d626, 0x1d65a, 0x1d68e]

def letterT : List Nat := [
  0x74, 0x1d57, 0x209c, 0xff54, 0x1d42d, 0x1d461, 0x1d495, 0x1d4c9, 0x1d4fd, 0x1d531, 0x1d565,
  0x1d599, 0x1d5cd, 0x1d601, 0x1d635, 0x1d669, 0x1d69d]

/-- Letters of other scripts go on a name, so that only the names that are known are read. -/
def name? (cs : List Char) : Option (Token × Nat) :=
  let name := cs.takeWhile fun c => c.isAlphanum || c == '_' || 128 ≤ c.toNat
  if ["True", "False", "None"].contains (String.ofList name) then some (.constant, name.length)
  else
    match name.map Char.toNat with
    | [s, e, t] =>
      if letterS.contains s && letterE.contains e && letterT.contains t then some (.set, 3) else none
    | _ => none

def read? (cs : List Char) : Option (Token × Nat) :=
  match cs with
  | [] => none
  | c :: rest =>
    if "(){},:+-".toList.contains c then some (.mark c, 1)
    else if "...".toList.isPrefixOf cs then some (.constant, 3)
    else if c.isDigit || (c == '.' && rest.head?.any Char.isDigit) then
      let digits := numberText cs
      (number? (digits.map Char.toLower)).map (·, digits.length)
    else
      match text? names cs with
      | some t => some t
      | none => name? cs

def nesting : Nat := 200

/-- At the beginning of a line, whether blanks stand before what follows; `kept` are those before a
line that goes on on the next one. -/
structure Margin where
  blanks : Bool
  kept : Bool

def Margin.none : Margin := ⟨false, false⟩

def Margin.isWide (m : Margin) : Bool := m.blanks || m.kept

/-- The tokens after the first `skip` characters, which belong to one that was read. Between brackets
lines do not end, and outside of them they have no margin. -/
def readAll (skip depth : Nat) (margin : Option Margin) : List Char → Option (List Token)
  | [] => if margin.any (·.isWide) then none else some []
  | c :: cs =>
    match skip with
    | skip + 1 => readAll skip depth margin cs
    | 0 =>
      if c = '\\' then
        if cs.head? == some '\n' && 1 < cs.length then
          readAll 1 depth (margin.map fun m => { m with kept := m.kept || m.blanks }) cs
        else none
      else if c = ' ' || c = '\t' then
        readAll 0 depth (margin.map fun m => { m with blanks := true }) cs
      else if c = '\x0c' then
        readAll 0 depth (margin.map fun m => { m with blanks := false }) cs
      else if c = '#' then
        readAll (cs.takeWhile (· != '\n')).length depth (margin.map fun _ => .none) cs
      else if c = '\n' then
        if depth ≠ 0 then readAll 0 depth none cs
        else
          let rest := readAll 0 depth (some .none) cs
          if margin.isSome then rest else rest.map (.lineEnd :: ·)
      else if margin.any (·.isWide) then none
      else
        match read? names (c :: cs) with
        | none => none
        | some (t, n) =>
          let opens := c = '(' || c = '{'
          let closes := c = ')' || c = '}'
          if (opens && nesting ≤ depth) || (closes && depth = 0) then none
          else
            let depth := if opens then depth + 1 else if closes then depth - 1 else depth
            (readAll (n - 1) depth none cs).map (t :: ·)

end

def joinTexts : List Token → Option (List Token)
  | [] => some []
  | t :: ts =>
    match t, joinTexts ts with
    | .text isBytes, some (.text other :: rest) =>
      if isBytes = other then some (.text isBytes :: rest) else none
    | t, some rest => some (t :: rest)
    | _, none => none

end Token

/-- What has been read of a value. -/
inductive Operand where
  | number (imaginary fits : Bool)
  | signed (imaginary fits : Bool)
  | setName
  | value (hashable : Bool)

namespace Operand

/-- A number with a sign before it is a value like others; the name of a type is none. -/
def hashable? : Operand → Option Bool
  | .value h => some h
  | .setName => none
  | _ => some true

def isValue (o : Operand) : Bool := o.hashable?.isSome

def isHashable (o : Operand) : Bool := o.hashable? == some true

end Operand

inductive Reading where
  | nothing
  | sign
  /-- A number and a sign, after which the imaginary part follows. -/
  | sum
  | operand (o : Operand)

def Reading.add? : Reading → Operand → Option Reading
  | .nothing, o => some (.operand o)
  | .sign, .number imaginary fits => some (.operand (.signed imaginary fits))
  | .sum, .number true _ => some (.operand (.value true))
  | _, _ => none

def Reading.sign? : Reading → Option Reading
  | .nothing => some .sign
  | .operand (.number false true) | .operand (.signed false true) => some .sum
  | _ => none

inductive Bracket where
  | line
  | group
  | call
  /-- Braces before it shows whether they hold members or pairs. -/
  | braces
  | members
  | keys
  | values

def Bracket.closing : Bracket → Option Char
  | .line => none
  | .group | .call => some ')'
  | .braces | .members | .keys | .values => some '}'

structure Frame where
  bracket : Bracket
  reading : Reading
  commas : Bool
  hashable : Bool

namespace Frame

def opened (b : Bracket) : Frame := ⟨b, .nothing, false, true⟩

def comma? (f : Frame) : Option Frame :=
  match f.reading with
  | .operand o =>
    let next (b : Bracket) : Frame := ⟨b, .nothing, true, f.hashable && o.isHashable⟩
    match f.bracket with
    | .line | .group => if o.isValue then some (next f.bracket) else none
    | .braces | .members => if o.isHashable then some (next .members) else none
    | .values => if o.isValue then some (next .keys) else none
    | .call | .keys => none
  | _ => none

def colon? (f : Frame) : Option Frame :=
  match f.reading, f.bracket with
  | .operand o, .braces | .operand o, .keys =>
    if o.isHashable then some { f with bracket := .values, reading := .nothing } else none
  | _, _ => none

def close? (f : Frame) : Option Operand :=
  match f.bracket, f.reading with
  | .line, .operand o => if o.isValue then some o else none
  | .line, .nothing => if f.commas then some (.value f.hashable) else none
  | .group, .operand o =>
    if !f.commas then some o
    else if o.isValue then some (.value (f.hashable && o.isHashable))
    else none
  | .group, .nothing => some (.value f.hashable)
  | .call, .nothing => some (.value false)
  | .braces, .nothing | .members, .nothing | .keys, .nothing => some (.value false)
  | .braces, .operand o | .members, .operand o => if o.isHashable then some (.value false) else none
  | .values, .operand o => if o.isValue then some (.value false) else none
  | _, _ => none

end Frame

def isLiteralFrom (f : Frame) (outer : List Frame) : List Token → Bool
  | [] => outer.isEmpty && f.close?.isSome
  | t :: ts =>
    let go (r : Option Reading) : Bool :=
      r.any fun r => isLiteralFrom { f with reading := r } outer ts
    match t with
    | .number imaginary fits => go (f.reading.add? (.number imaginary fits))
    | .text _ | .constant => go (f.reading.add? (.value true))
    | .set => go (f.reading.add? .setName)
    | .lineEnd => ts.isEmpty && outer.isEmpty && f.close?.isSome
    | .mark c =>
      if c = '+' || c = '-' then go f.reading.sign?
      else if c = ',' then f.comma?.any fun f => isLiteralFrom f outer ts
      else if c = ':' then f.colon?.any fun f => isLiteralFrom f outer ts
      else if c = '(' then
        match f.reading with
        | .operand .setName =>
          isLiteralFrom (.opened .call) ({ f with reading := .nothing } :: outer) ts
        | .operand _ => false
        | _ => isLiteralFrom (.opened .group) (f :: outer) ts
      else if c = '{' then
        match f.reading with
        | .operand _ => false
        | _ => isLiteralFrom (.opened .braces) (f :: outer) ts
      else
        match outer with
        | [] => false
        | g :: outer =>
          f.bracket.closing == some c && (f.close?.bind g.reading.add?).any fun r =>
            isLiteralFrom { g with reading := r } outer ts

/-- Whether a text without square brackets is a value: a number, a text, a constant, or a tuple, a
set or a dictionary of such. -/
def isLiteral (names : List Char → Bool) (cs : List Char) : Bool :=
  let cs := Text.unifyNewlines (cs.dropWhile fun c => c == ' ' || c == '\t')
  !cs.contains '\x00' &&
    ((Token.readAll names 0 0 (some .none) cs).bind Token.joinTexts).any
      (isLiteralFrom (.opened .line) [])

end Runbook.Screen
