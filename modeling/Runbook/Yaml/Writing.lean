import Runbook.Text.Base64
import Runbook.Value.Text
import Runbook.Yaml.Surrogate
import Runbook.Yaml.Tag
import Runbook.Yaml.Token

namespace Runbook.Yaml

def lineWidth : Nat := 80

/-- The text so far, latest character first, and where its last line stands. -/
structure Sheet where
  text : List Char
  column : Nat
  /-- Whether the text ends with a blank or at the start of a line. -/
  spaced : Bool
  /-- Whether there are only blanks and marks of blocks on the line. -/
  indented : Bool

namespace Sheet

def empty : Sheet := ⟨[], 0, true, true⟩

def put (cs : List Char) (s : Sheet) : Sheet :=
  { s with text := cs.reverse ++ s.text, column := s.column + cs.length }

def mark (m : String) (separate spaced indented : Bool) (s : Sheet) : Sheet :=
  let s := if s.spaced || !separate then s.put m.toList else s.put (' ' :: m.toList)
  { s with spaced := spaced, indented := s.indented && indented }

def lineBreak (c : Char) (s : Sheet) : Sheet := ⟨c :: s.text, 0, true, true⟩

def newLine (indent : Nat) (s : Sheet) : Sheet :=
  let s :=
    if !s.indented || indent < s.column || (s.column == indent && !s.spaced) then s.lineBreak '\n'
    else s
  if s.column < indent then
    { s.put (List.replicate (indent - s.column) ' ') with spaced := true }
  else s

def inText (s : Sheet) : Sheet := { s with spaced := false, indented := false }

end Sheet

def isLineBreak (c : Char) : Bool :=
  c == '\n' || c == '\u0085' || c == '\u2028' || c == '\u2029'

def isDisplayable (c : Char) : Bool :=
  let n := c.toNat
  c == '\n' || (0x20 ≤ n && n ≤ 0x7E) ||
    ((n == 0x85 || (0xA0 ≤ n && n ≤ 0xD7FF) || (0xE000 ≤ n && n ≤ 0xFFFD) ||
      (0x10000 ≤ n && n < 0x10FFFF)) && n != 0xFEFF)

structure Shape where
  empty : Bool
  multiline : Bool
  plain : Bool
  singleQuoted : Bool
  block : Bool

namespace Shape

def endsWith (c : Option Char) : Bool := endsWord c || c == some '\x00'

def marksInside (before : Char) : List Char → Bool
  | [] => false
  | c :: cs =>
    (c == ':' && endsWith cs.head?) || (c == '#' && endsWith (some before)) || marksInside c cs

def marksFirst : List Char → Bool
  | [] => false
  | c :: cs =>
    "#,[]\x7b\x7d&*!|>'\"%@\x60".toList.contains c ||
      ("?:-".toList.contains c && endsWith cs.head?) || marksInside c cs

def adjacent (p q : Char → Bool) : List Char → Bool
  | a :: b :: cs => (p a && q b) || adjacent p q (b :: cs)
  | _ => false

def isSpace (c : Char) : Bool := c == ' '

def ofText (cs : List Char) : Shape :=
  let edge (c : Option Char) : Bool := c.any fun c => isSpace c || isLineBreak c
  let multiline := cs.any isLineBreak
  let special := !cs.all isDisplayable || adjacent isSpace isLineBreak cs
  let breakSpace := adjacent isLineBreak isSpace cs
  let marks := cs.take 3 == ['-', '-', '-'] || cs.take 3 == ['.', '.', '.'] || marksFirst cs
  { empty := cs.isEmpty
    multiline := multiline
    plain := cs.isEmpty ||
      !(edge cs.head? || edge cs.getLast? || breakSpace || special || multiline || marks)
    singleQuoted := !(breakSpace || special)
    block := !cs.isEmpty && !(cs.getLast?.any isSpace || special) }

end Shape

/-- A scalar to be written: its tag, its text, and whether it should be a block of lines. -/
structure ScalarForm where
  tag : Tag
  text : String
  lines : Bool

structure Place where
  inMapping : Bool
  isKey : Bool

inductive Style where
  | plain
  | single
  | double
  | literal
deriving DecidableEq

namespace ScalarForm

def number (x : Binary64) : String :=
  match x with
  | .nan => ".nan"
  | .infinite s => if s then "-.inf" else ".inf"
  | x =>
    let cs := (Value.numbers.text x).toList
    if cs.contains '.' then String.ofList cs
    else String.ofList (Text.replaceAll ['e'] ['.', '0', 'e'] cs)

def base64Lines : Nat → List Char → List Char
  | 0, _ => []
  | fuel + 1, cs =>
    if cs.isEmpty then [] else cs.take 76 ++ '\n' :: base64Lines fuel (cs.drop 76)

def ofValue? : Value → Option ScalarForm
  | .null => some ⟨.null, "null", false⟩
  | .bool b => some ⟨.bool, if b then "true" else "false", false⟩
  | .int n => some ⟨.int, String.ofList (intDigits n), false⟩
  | .float x => some ⟨.float, number x, false⟩
  | .str s => some ⟨.str, s, false⟩
  | .bytes data =>
    let cs := Text.Base64.encode data
    some ⟨.binary, String.ofList (base64Lines cs.length cs), true⟩
  | .date d => some ⟨.timestamp, d.text, false⟩
  | .dateTime t => some ⟨.timestamp, t.text " ", false⟩
  | _ => none

/-- Whether a plain scalar with the text has the tag. -/
def plainReadsBack (f : ScalarForm) : Bool := f.tag = Tag.ofPlain f.text

def style (f : ScalarForm) (isKey : Bool) : Style :=
  let shape := Shape.ofText f.text.toList
  if !f.lines && f.plainReadsBack && !(isKey && (shape.empty || shape.multiline)) && shape.plain then
    .plain
  else if f.lines && !isKey && shape.block then .literal
  else if !f.lines && shape.singleQuoted && !(isKey && shape.multiline) then .single
  else .double

def tagText (t : Tag) : String :=
  "!!" ++ ((Tag.names.find? fun e => e.2 == t).elim "" (·.1))

/-- The tag is left out where reading finds it again. -/
def needsTag (f : ScalarForm) (style : Style) : Bool :=
  if style = .plain then !f.plainReadsBack else f.tag ≠ .str

def isSimpleKey (f : ScalarForm) : Bool :=
  let shape := Shape.ofText f.text.toList
  (tagText f.tag).length + f.text.length < 128 && !shape.empty && !shape.multiline

def runs (cs : List Char) : List (List Char) :=
  cs.splitBy fun a b => (Shape.isSpace a == Shape.isSpace b) && (isLineBreak a == isLineBreak b)

/-- A single blank past the width becomes a line break. -/
def breaksAt (s : Sheet) (split : Bool) (run : List Char) : Bool :=
  run == [' '] && lineWidth < s.column && split

def plainRuns (split : Bool) (indent : Nat) : List (List Char) → Sheet → Sheet
  | [], s => s
  | run :: rs, s =>
    plainRuns split indent rs
      (if breaksAt s split run then (s.newLine indent).inText else s.put run)

def writePlain (split : Bool) (indent : Nat) (cs : List Char) (s : Sheet) : Sheet :=
  if cs.isEmpty then s
  else plainRuns split indent (runs cs) (if s.spaced then s else s.put [' ']).inText

/-- A line break in quotes is written twice, as a single one would be folded. -/
def quotedBreaks (indent : Nat) (run : List Char) (s : Sheet) : Sheet :=
  let s := if run.head? == some '\n' then s.lineBreak '\n' else s
  (run.foldl (fun s c => s.lineBreak c) s).newLine indent

def singleRuns (split : Bool) (indent : Nat) : Bool → List (List Char) → Sheet → Sheet
  | _, [], s => s
  | first, run :: rs, s =>
    singleRuns split indent false rs <|
      if run.head?.any isLineBreak then quotedBreaks indent run s
      else if breaksAt s split run && !first && !rs.isEmpty then s.newLine indent
      else s.put (run.flatMap fun c => if c = '\'' then ['\'', '\''] else [c])

def writeSingle (split : Bool) (indent : Nat) (cs : List Char) (s : Sheet) : Sheet :=
  (singleRuns split indent true (runs cs) (s.mark "'" true false false)).mark "'" false false false

def shortEscapes : List (Char × Char) := [
  ('\x00', '0'), ('\x07', 'a'), ('\x08', 'b'), ('\t', 't'), ('\n', 'n'), ('\x0b', 'v'),
  ('\x0c', 'f'), ('\r', 'r'), ('\x1b', 'e'), ('"', '"'), ('\\', '\\'), ('\u0085', 'N'),
  ('\u00A0', '_'), ('\u2028', 'L'), ('\u2029', 'P')]

def needsEscape (c : Char) : Bool :=
  let n := c.toNat
  "\"\\\u0085\u2028\u2029\uFEFF".toList.contains c ||
    !((0x20 ≤ n && n ≤ 0x7E) || (0xA0 ≤ n && n ≤ 0xD7FF) || (0xE000 ≤ n && n ≤ 0xFFFD))

def hexText (width n : Nat) : List Char :=
  let ds := (Nat.toDigits 16 n).map Char.toUpper
  List.replicate (width - ds.length) '0' ++ ds

def escapeCode (n : Nat) : List Char :=
  if n ≤ 0xFF then '\\' :: 'x' :: hexText 2 n
  else if n ≤ 0xFFFF then '\\' :: 'u' :: hexText 4 n
  else '\\' :: 'U' :: hexText 8 n

def escapeText (c : Char) : List Char :=
  match shortEscapes.find? (·.1 == c) with
  | some (_, e) => ['\\', e]
  | none => escapeCode c.toNat

/-- End the line with a backslash; a blank at the start of the next one has another in front. -/
def breakDouble (indent : Nat) (next : Option Char) (s : Sheet) : Sheet :=
  let s := ((s.put ['\\']).newLine indent).inText
  if next == some ' ' then s.put ['\\'] else s

/-- Put an escape; `inside` says whether the line may be broken behind it. -/
def putEscape (inside : Bool) (indent : Nat) (next : Option Char) (e : List Char) (s : Sheet) :
    Sheet :=
  let s := s.put e
  if inside && lineWidth + 1 < s.column then breakDouble indent next s else s

/-- The characters after those in `pending`, which are latest first and not written yet. -/
def doubleFrom (split : Bool) (indent : Nat) : List Char → Bool → List Char → Sheet → Sheet
  | pending, _, [], s => s.put pending.reverse
  | pending, started, '\uFFFF' :: c :: cs, s =>
    doubleFrom split indent [] true cs
      (putEscape (started && !cs.isEmpty && split) indent cs.head? (escapeCode (markedCode c))
        (s.put pending.reverse))
  | pending, started, c :: cs, s =>
    let inside := started && !cs.isEmpty && split
    if needsEscape c then
      doubleFrom split indent [] true cs
        (putEscape inside indent cs.head? (escapeText c) (s.put pending.reverse))
    else if inside && (c == ' ' || pending.isEmpty) && lineWidth < s.column + pending.length then
      doubleFrom split indent [c] true cs (breakDouble indent (some c) (s.put pending.reverse))
    else doubleFrom split indent (c :: pending) true cs s

def writeDouble (split : Bool) (indent : Nat) (cs : List Char) (s : Sheet) : Sheet :=
  (doubleFrom split indent [] false cs (s.mark "\"" true false false)).mark "\"" false false false

/-- The marks of a block: its indentation if its first line could be taken for an indented one, and
how it ends. -/
def blockMarks (cs : List Char) : String :=
  let isBreak (c : Option Char) : Bool := c.any isLineBreak
  (if cs.head? == some ' ' || isBreak cs.head? then "2" else "") ++
    (if !isBreak cs.getLast? then "-"
      else if cs.length == 1 || isBreak cs.dropLast.getLast? then "+" else "")

def literalLines (indent : Nat) : List (List Char) → Sheet → Sheet
  | [], s => s
  | run :: rs, s =>
    literalLines indent rs <|
      if run.head?.any isLineBreak then run.foldl (fun s c => s.lineBreak c) s
      else { s.newLine indent with text := run.reverse ++ (s.newLine indent).text }

def writeLiteral (indent : Nat) (cs : List Char) (s : Sheet) : Sheet :=
  literalLines indent (cs.splitBy fun a b => isLineBreak a == isLineBreak b)
    ((s.mark ("|" ++ blockMarks cs) true false false).lineBreak '\n')

def write (f : ScalarForm) (isKey : Bool) (indent : Nat) (s : Sheet) : Sheet :=
  let style := f.style isKey
  let s := if f.needsTag style then s.mark (tagText f.tag) true false false else s
  let cs := f.text.toList
  match style with
  | .plain => writePlain (!isKey) indent cs s
  | .single => writeSingle (!isKey) indent cs s
  | .double => writeDouble (!isKey) indent cs s
  | .literal => writeLiteral indent cs s

end ScalarForm

namespace Writing

def deeper (indent : Option Nat) : Nat := indent.elim 0 (· + 2)

def scalarIndent (indent : Option Nat) : Nat := indent.elim 2 (· + 2)

def isSimpleKey (v : Value) : Bool :=
  match v with
  | .list items | .tuple items => items.isEmpty
  | .map entries => entries.isEmpty
  | .set items => items.isEmpty
  | v => (ScalarForm.ofValue? v).any (·.isSimpleKey)

def emptyList (s : Sheet) : Sheet := (s.mark "[" true true false).mark "]" false false false

def emptyMap (s : Sheet) : Sheet := (s.mark "\x7b" true true false).mark "\x7d" false false false

/-- A list in a mapping is not indented further than that, unless it starts the line. -/
def listIndent (place : Place) (indent : Option Nat) (s : Sheet) : Nat :=
  if place.inMapping && !s.indented then indent.getD 0 else deeper indent

def inList : Place := ⟨false, false⟩
def asKey : Place := ⟨true, true⟩
def inMap : Place := ⟨true, false⟩

def scalar (place : Place) (indent : Option Nat) (v : Value) (s : Sheet) : Sheet :=
  (ScalarForm.ofValue? v).elim s fun f => f.write place.isKey (scalarIndent indent) s

mutual

def node (place : Place) (indent : Option Nat) : Value → Sheet → Sheet
  | .list vs, s => if vs.isEmpty then emptyList s else items (listIndent place indent s) vs s
  | .tuple vs, s => if vs.isEmpty then emptyList s else items (listIndent place indent s) vs s
  | .map es, s => if es.isEmpty then emptyMap s else entries (deeper indent) es s
  | .set vs, s =>
    let s := s.mark "!!set" true false false
    if vs.isEmpty then emptyMap s else members (deeper indent) vs s
  | v, s => scalar place indent v s

def items (indent : Nat) : List Value → Sheet → Sheet
  | [], s => s
  | v :: vs, s =>
    items indent vs (node inList (some indent) v ((s.newLine indent).mark "-" true false true))

/-- Entries, each on a line of its own. A key that is long or has a shape of its own stands behind a
question mark. -/
def entries (indent : Nat) : List (Value × Value) → Sheet → Sheet
  | [], s => s
  | (k, v) :: es, s =>
    let s := s.newLine indent
    let s :=
      if isSimpleKey k then (node asKey (some indent) k s).mark ":" false false false
      else
        ((node inMap (some indent) k (s.mark "?" true false true)).newLine indent).mark
          ":" true false true
    entries indent es (node inMap (some indent) v s)

/-- The members of a set are keys without values. -/
def members (indent : Nat) : List Value → Sheet → Sheet
  | [], s => s
  | v :: vs, s =>
    let s := s.newLine indent
    let s :=
      if isSimpleKey v then (node asKey (some indent) v s).mark ":" false false false
      else
        ((node inMap (some indent) v (s.mark "?" true false true)).newLine indent).mark
          ":" true false true
    members indent vs (scalar inMap (some indent) .null s)

end

mutual

def isWritable : Value → Bool
  | .int n => (Value.intText? n).isSome
  | .list vs => allWritable vs
  | .tuple vs => allWritable vs
  | .set vs => allWritable vs
  | .map es => entriesWritable es
  | _ => true

def allWritable : List Value → Bool
  | [] => true
  | v :: vs => isWritable v && allWritable vs

def entriesWritable : List (Value × Value) → Bool
  | [] => true
  | (k, v) :: es => isWritable k && isWritable v && entriesWritable es

end

end Writing

def write? (v : Value) : Option String :=
  if Writing.isWritable v then
    let s := (Writing.node Writing.inList none v .empty).newLine 0
    some (String.ofList s.text.reverse)
  else none

end Runbook.Yaml
