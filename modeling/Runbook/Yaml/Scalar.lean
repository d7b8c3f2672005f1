import Runbook.Json.Token
import Runbook.Yaml.Surrogate
import Runbook.Yaml.Token

namespace Runbook.Yaml

namespace Cursor

/-- A plain text ends at a blank, at a colon before a blank, and between brackets also at what
structures a list or mapping. -/
def endsPlain (flow : Bool) (c : Char) (rest : List Char) : Bool :=
  endsWord (some c) ||
    (c == ':' && (endsWord rest.head? || (flow && rest.head?.any (",[]\x7b\x7d".toList.contains ·)))) ||
    (flow && ",?[]\x7b\x7d".toList.contains c)

def plainRun (flow : Bool) : List Char → List Char
  | [] => []
  | c :: cs => if endsPlain flow c cs then [] else c :: plainRun flow cs

/-- The breaks after a first one, up to a separator line. Whether there is one is the second part. -/
def plainBreaks : Nat → Cursor → List Char × Bool × Cursor
  | 0, c => ([], false, c)
  | fuel + 1, c =>
    if c.here == some ' ' then plainBreaks fuel c.next
    else
      match c.lineBreak? with
      | none => ([], false, c)
      | some (b, c) =>
        if c.atSeparator then ([], true, c)
        else
          let (bs, stop, c) := plainBreaks fuel c
          (b :: bs, stop, c)

/-- A first line break stands for a blank, unless further ones follow it. -/
def folded (first : Char) (others : List Char) : List Char :=
  if first ≠ '\n' then first :: others
  else if others.isEmpty then [' ']
  else others

/-- What stands between two runs of a plain text, whether a line has ended, and the place after
it. -/
def plainSpaces (c : Cursor) : List Char × Bool × Cursor :=
  let (blanks, c) := c.span (· == ' ')
  match c.lineBreak? with
  | none => (blanks, false, c)
  | some (b, c) =>
    if c.atSeparator then ([], true, c)
    else
      let (bs, stop, c) := plainBreaks c.bound c
      (if stop then [] else folded b bs, true, c)

/-- The runs of a plain text after `spaces`. The second part is whether a line has ended after the
last of them. -/
def plainFrom (flow : Bool) (indent : Int) : Nat → Bool → List Char → Cursor →
    List Char × Bool × Cursor
  | 0, crossed, _, c => ([], crossed, c)
  | fuel + 1, crossed, spaces, c =>
    let run := plainRun flow c.rest
    if c.here == some '#' || run.isEmpty then ([], crossed, c)
    else
      let (more, crossed, c) := plainSpaces (c.skip run.length)
      if more.isEmpty || c.here == some '#' || (!flow && (c.column : Int) < indent) then
        (spaces ++ run, crossed, c)
      else
        let (text, crossed, c) := plainFrom flow indent fuel crossed more c
        (spaces ++ run ++ text, crossed, c)

def plain (flow : Bool) (indent : Int) (c : Cursor) : List Char × Bool × Cursor :=
  plainFrom flow indent c.bound false [] c

def hexNumber? (cs : List Char) : Option Nat :=
  (cs.mapM Json.Token.hexValue?).map fun ds => ds.foldl (fun n d => 16 * n + d) 0

def shortEscapes : List (Char × Char) := [
  ('0', '\x00'), ('a', '\x07'), ('b', '\x08'), ('t', '\t'), ('\t', '\t'), ('n', '\n'), ('v', '\x0b'),
  ('f', '\x0c'), ('r', '\r'), ('e', '\x1b'), (' ', ' '), ('"', '"'), ('\\', '\\'), ('/', '/'),
  ('N', '\u0085'), ('_', '\u00A0'), ('L', '\u2028'), ('P', '\u2029')]

def numbered (n : Nat) : Except ReadFault (List Char) :=
  if n ≥ 0x80000000 then .error .tooLarge
  else if n > 0x10FFFF then .error .noCharacter
  else .ok (ofCode n)

def numberEscape (digits : Nat) (c : Cursor) : Except ReadFault (List Char × Cursor) :=
  let ds := c.rest.take digits
  if ds.length < digits then .error .malformed
  else
    match hexNumber? ds with
    | none => .error .malformed
    | some n => (numbered n).map fun cs => (cs, c.skip digits)

def quotedBreaks : Nat → Cursor → Except ReadFault (List Char × Cursor)
  | 0, _ => .error .malformed
  | fuel + 1, c =>
    if c.atSeparator then .error .malformed
    else
      let c := c.skipWhile fun ch => ch == ' ' || ch == '\t'
      match c.lineBreak? with
      | none => .ok ([], c)
      | some (b, c) => (quotedBreaks fuel c).map fun r => (b :: r.1, r.2)

/-- An escape after its backslash. An escaped line break goes with the blanks around it. -/
def escape (c : Cursor) : Except ReadFault (List Char × Cursor) :=
  match c.rest with
  | [] => .error .malformed
  | ch :: _ =>
    match shortEscapes.find? (·.1 == ch) with
    | some (_, r) => .ok ([r], c.next)
    | none =>
      if ch = 'x' then numberEscape 2 c.next
      else if ch = 'u' then numberEscape 4 c.next
      else if ch = 'U' then numberEscape 8 c.next
      else
        match c.lineBreak? with
        | some (_, c) => quotedBreaks c.bound c
        | none => .error .malformed

/-- Blanks inside quotes; line breaks among them are folded. -/
def quotedSpaces (c : Cursor) : Except ReadFault (List Char × Cursor) :=
  let (blanks, c) := c.span fun ch => ch == ' ' || ch == '\t'
  match c.rest with
  | [] => .error .malformed
  | _ =>
    match c.lineBreak? with
    | none => .ok (blanks, c)
    | some (b, c) =>
      (quotedBreaks c.bound c).map fun r => (folded b r.1, r.2)

/-- The text up to the closing quote, and the place after that. Between double quotes there are
escapes, between single ones a quote is written twice. -/
def quotedFrom (double : Bool) : Nat → Cursor → Except ReadFault (List Char × Cursor)
  | 0, _ => .error .malformed
  | fuel + 1, c =>
    let andThen (r : Except ReadFault (List Char × Cursor)) : Except ReadFault (List Char × Cursor) :=
      match r with
      | .error f => .error f
      | .ok (cs, c) => (quotedFrom double fuel c).map fun r => (cs ++ r.1, r.2)
    match c.rest with
    | [] => .error .malformed
    | '\'' :: '\'' :: _ => andThen (if double then .ok (['\''], c.next) else .ok (['\''], c.skip 2))
    | ch :: _ =>
      if ch = (if double then '"' else '\'') then .ok ([], c.next)
      else if double && ch == '\\' then andThen (escape c.next)
      else if endsWord (some ch) then andThen (quotedSpaces c)
      else andThen (.ok ([ch], c.next))

def quoted (double : Bool) (c : Cursor) : Except ReadFault (List Char × Cursor) :=
  quotedFrom double c.bound c.next

/-- How a block of lines ends: the last line break stays, or goes, or stays with those after it. -/
inductive Chomping where
  | clip
  | strip
  | keep
deriving DecidableEq

def chomping? : Option Char → Option Chomping
  | some '+' => some .keep
  | some '-' => some .strip
  | _ => none

def indentDigit? (c : Option Char) : Option Nat :=
  c.bind fun ch => if '0' ≤ ch ∧ ch ≤ '9' then some (ch.toNat - 48) else none

/-- The marks after `|` or `>`, in either order. The indentation may not be zero. -/
def blockMarks (c : Cursor) : Except ReadFault (Chomping × Option Nat × Cursor) :=
  let (chomp, digit, c) :=
    match chomping? c.here with
    | some chomp =>
      match indentDigit? c.next.here with
      | some n => (chomp, some n, c.skip 2)
      | none => (chomp, none, c.next)
    | none =>
      match indentDigit? c.here with
      | some n =>
        match chomping? c.next.here with
        | some chomp => (chomp, some n, c.skip 2)
        | none => (.clip, some n, c.next)
      | none => (.clip, none, c)
  if digit == some 0 || !endsItem c.here then .error .malformed else .ok (chomp, digit, c)

/-- Empty lines before the first line of a block, and the deepest indentation among them and it. -/
def blockIndent : Nat → Nat → Cursor → List Char × Nat × Cursor
  | 0, deepest, c => ([], deepest, c)
  | fuel + 1, deepest, c =>
    if c.here == some ' ' then
      let c := c.next
      blockIndent fuel (max deepest c.column) c
    else
      match c.lineBreak? with
      | none => ([], deepest, c)
      | some (b, c) =>
        let (bs, deepest, c) := blockIndent fuel deepest c
        (b :: bs, deepest, c)

def skipIndent (indent : Nat) (c : Cursor) : Cursor :=
  c.skip (min (indent - c.column) (c.rest.takeWhile (· == ' ')).length)

def blockBreaks (indent : Nat) : Nat → Cursor → List Char × Cursor
  | 0, c => ([], c)
  | fuel + 1, c =>
    let c := c.skipIndent indent
    match c.lineBreak? with
    | none => ([], c)
    | some (b, c) =>
      let (bs, c) := blockBreaks indent fuel c
      (b :: bs, c)

/-- The lines of a block after the empty lines `breaks`. A folded block joins two lines that both
start with something else than a blank. -/
def blockLines (fold : Bool) (chomp : Chomping) (indent : Nat) :
    Nat → Option Char → List Char → Cursor → List Char × Cursor
  | 0, _, _, c => ([], c)
  | fuel + 1, last, breaks, c =>
    if c.column == indent && !c.rest.isEmpty then
      let starts (c : Cursor) : Bool := !(c.here == some ' ' || c.here == some '\t')
      let leading := starts c
      let (line, c) := c.span (!isBreak ·)
      let (last, c) :=
        match c.lineBreak? with
        | some (b, c) => (some b, c)
        | none => (none, c)
      let (more, c) := blockBreaks indent c.bound c
      if c.column == indent && !c.rest.isEmpty then
        let joint :=
          if fold && last == some '\n' && leading && starts c then
            if more.isEmpty then [' '] else []
          else last.toList
        let (text, c) := blockLines fold chomp indent fuel last more c
        (breaks ++ line ++ joint ++ text, c)
      else (breaks ++ line ++ ending chomp last more, c)
    else (ending chomp last breaks, c)
where
  ending (chomp : Chomping) (last : Option Char) (breaks : List Char) : List Char :=
    match chomp with
    | .strip => []
    | .clip => last.toList
    | .keep => last.toList ++ breaks

def block (fold : Bool) (outer : Int) (c : Cursor) : Except ReadFault (List Char × Cursor) :=
  match blockMarks c.next with
  | .error f => .error f
  | .ok (chomp, digit, c) =>
    let c := c.skipRemark
    if !endsLine c.here then .error .malformed
    else
      let c := c.lineBreak?.elim c (·.2)
      let least := (max 1 (outer + 1)).toNat
      let fuel := c.bound
      match digit with
      | none =>
        let (breaks, deepest, c) := blockIndent fuel 0 c
        .ok (blockLines fold chomp (max least deepest) fuel none breaks c)
      | some n =>
        let indent := least + n - 1
        let (breaks, c) := blockBreaks indent fuel c
        .ok (blockLines fold chomp indent fuel none breaks c)

end Cursor

end Runbook.Yaml
