import Runbook.Http.HostTable
import Runbook.Http.Punycode
import Runbook.Http.UrlFault
import Runbook.Text.Blank
import Runbook.Text.Case
import Runbook.Text.Digit
import Runbook.Text.Percent

namespace Runbook.Http.Host

open Text

def isDigit (c : Char) : Bool := '0' ≤ c && c ≤ '9'

/-- Whether the text is four runs of digits with a character between each two; `n` of them follow the
one that is being read, of which a digit has been seen if `seen`. -/
def fourRuns : Nat → Bool → List Char → Bool
  | n, seen, [] => seen && n == 0
  | n, seen, c :: cs =>
    (isDigit c && fourRuns n true cs) ||
      (seen && match n with
        | 0 => false
        | m + 1 => fourRuns m false cs)

def isFourNumbers (cs : List Char) : Bool := fourRuns 3 false cs

def isOctet (cs : List Char) : Bool :=
  !cs.isEmpty && cs.all isDigit && cs.length ≤ 3 && (cs.length == 1 || cs.head? != some '0') &&
    cs.foldl (fun n c => 10 * n + (c.toNat - 48)) 0 ≤ 255

def isIpv4 (cs : List Char) : Bool :=
  let parts := cutAt '.' cs
  parts.length == 4 && parts.all isOctet

def isHextet (cs : List Char) : Bool :=
  !cs.isEmpty && cs.length ≤ 4 && cs.all fun c => (Percent.hexValue? c).isSome

/-- Groups of an address, where an empty one in the middle stands for groups left out. -/
def areGroups (parts : List (List Char)) : Bool :=
  let inner := (parts.drop 1).dropLast
  match inner.countP (·.isEmpty) with
  | 0 => parts.length == 8 && parts.all isHextet
  | 1 =>
    let before := parts.takeWhile (!·.isEmpty)
    let before := if parts.head?.any (·.isEmpty) then [] else before
    let gap := 1 + (inner.takeWhile (!·.isEmpty)).length
    let after := parts.drop (gap + 1)
    let after := if after == [[]] then [] else after
    let leading := if parts.head?.any (·.isEmpty) then gap == 1 else true
    leading && before.all isHextet && after.all isHextet && before.length + after.length < 8
  | _ => false

def isIpv6 (cs : List Char) : Bool :=
  let (address, zone) := cutFirst '%' cs
  let parts := cutAt ':' address
  let last := parts.getLast?.getD []
  let dotted := last.contains '.'
  let parts := if dotted then parts.dropLast ++ [['0'], ['0']] else parts
  !cs.contains '/' && zone.all (fun z => !z.isEmpty && !z.contains '%') &&
    3 ≤ (cutAt ':' address).length && (!dotted || isIpv4 last) && parts.length ≤ 9 && areGroups parts

def isIn (ranges : List (Nat × Nat)) (c : Char) : Bool :=
  ranges.any fun r => r.1 ≤ c.toNat && c.toNat ≤ r.2

def isArabicDigit (c : Char) : Bool := '\u0660' ≤ c && c ≤ '\u0669'

def isEasternDigit (c : Char) : Bool := '\u06f0' ≤ c && c ≤ '\u06f9'

/-- Characters that a label may hold in some company only: `before` and `after` are what stands
around it, the nearest first. -/
def isAllowedAmong (before : List Char) (c : Char) (after : List Char) : Bool :=
  if c = '\u200c' || c = '\u200d' then before.head?.any (isIn viramaRanges)
  else if c = '\u00b7' then before.head? == some 'l' && after.head? == some 'l'
  else if c = '\u0375' then after.head?.any (isIn greekRanges)
  else if c = '\u05f3' || c = '\u05f4' then before.head?.any (isIn hebrewRanges)
  else if c = '\u30fb' then (before ++ after).any (isIn japaneseRanges)
  else if isArabicDigit c then !(before ++ after).any isEasternDigit
  else if isEasternDigit c then !(before ++ after).any isArabicDigit
  else false

def charsFit (before : List Char) : List Char → Bool
  | [] => true
  | c :: cs => (isIn hostRanges c || isAllowedAmong before c cs) && charsFit (c :: before) cs

/-- What a character is where letters of both directions meet. -/
inductive Direction where
  | left
  | right
  | arabicNumber
  | number
  | mark
  | neutral
  | unknown
deriving DecidableEq

def direction (c : Char) : Direction :=
  if isIn rightToLeftRanges c then .right
  else if isIn arabicNumberRanges c then .arabicNumber
  else if isIn numberRanges c then .number
  else if isIn freeMarkRanges c then .mark
  else if isIn neutralRanges c then .neutral
  else if isIn unknownRanges c then .unknown
  else .left

/-- A label with letters from right to left has letters of no other direction, and one kind of
digits; it ends with a letter or a digit but for marks. -/
def directionsFit (cs : List Char) : Bool :=
  let ds := cs.map direction
  let last := (ds.filter (· != .mark)).getLast?
  if ds.contains .unknown then false
  else if !ds.contains .right && !ds.contains .arabicNumber then true
  else
    match ds.head? with
    | some .right =>
      !ds.contains .left && !(ds.contains .number && ds.contains .arabicNumber) &&
        last.any fun d => d == .right || d == .number || d == .arabicNumber
    | _ => false

def isLabel (cs : List Char) : Bool :=
  !cs.isEmpty && (cs.drop 2).take 2 != ['-', '-'] && cs.head? != some '-' && cs.getLast? != some '-' &&
    !cs.head?.any (isIn markRanges) && charsFit [] cs && directionsFit cs

def isAscii (cs : List Char) : Bool := cs.all fun c => c.toNat < 128

def encodedMark : List Char := ['x', 'n', '-', '-']

def decodeLabel? (label : List Char) : Option (List Char) :=
  let cs := label.map Char.toLower
  if encodedMark.isPrefixOf cs then
    let body := cs.drop 4
    if body.isEmpty || body.getLast? == some '-' then none
    else (Punycode.decode? body).filter isLabel
  else if isLabel cs then some cs
  else none

def encodeLabel? (label : List Char) : Option (List Char) :=
  let cs? :=
    if isAscii label then (decodeLabel? label).map fun _ => label
    else if isLabel label then some (encodedMark ++ Punycode.encode label)
    else none
  cs?.filter fun cs => cs.length ≤ 63

def labels (cs : List Char) : List (List Char) × Bool :=
  let dots := ['\u3002', '\uff0e', '\uff61']
  let parts := cutAt '.' (cs.map fun c => if dots.contains c then '.' else c)
  if parts.getLast? == some [] then (parts.dropLast, true) else (parts, false)

/-- A name in ASCII, of at most 253 characters before the last dot. -/
def encodeName? (cs : List Char) : Option (List Char) :=
  let (parts, dotted) := labels cs
  match parts.mapM encodeLabel? with
  | none => none
  | some ls =>
    let name := (ls.intersperse ['.']).flatten
    if ls.isEmpty || 253 < name.length then none
    else some (if dotted then name ++ ['.'] else name)

def decodeName? (cs : List Char) : Option (List Char) :=
  let (parts, dotted) := labels cs
  match parts.mapM decodeLabel? with
  | none => none
  | some ls =>
    let name := (ls.intersperse ['.']).flatten
    if ls.isEmpty then none else some (if dotted then name ++ ['.'] else name)

def isKept (c : Char) : Bool := Percent.isUnreserved c || "!$&'()*+,;=\"\x60\x7b\x7d%|\\".toList.contains c

def encode (host : String) : Except UrlFault String :=
  let cs := host.toList
  if cs.isEmpty then .ok ""
  else if isFourNumbers cs then if isIpv4 cs then .ok host else .error (.ipv4 host)
  else if cs.head? == some '[' && cs.getLast? == some ']' then
    let inner := (cs.drop 1).dropLast
    if isIpv6 inner then .ok (String.ofList inner) else .error (.ipv6 host)
  else if isAscii cs then .ok (String.ofList (Percent.encode isKept (cs.map Char.toLower)))
  else (encodeName? (lower host).toList).elim (.error (.hostName host)) fun n => .ok (String.ofList n)

/-- The host as it is read: an encoded name stands for a name of any script. -/
def decode? (host : String) : Option String :=
  if encodedMark.isPrefixOf host.toList then (decodeName? host.toList).map String.ofList
  else some host

end Runbook.Http.Host
