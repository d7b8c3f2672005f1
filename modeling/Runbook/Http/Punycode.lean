namespace Runbook.Http.Punycode

def digitChar (d : Nat) : Char :=
  if d < 26 then Char.ofNat (97 + d) else Char.ofNat (22 + d)

def digitValue? (c : Char) : Option Nat :=
  if 'a' ≤ c ∧ c ≤ 'z' then some (c.toNat - 97)
  else if 'A' ≤ c ∧ c ≤ 'Z' then some (c.toNat - 65)
  else if '0' ≤ c ∧ c ≤ '9' then some (c.toNat - 22)
  else none

/-- Below this value a digit in the place with this weight is the last of its number. -/
def threshold (place bias : Nat) : Nat :=
  if place ≤ bias then 1 else if bias + 26 ≤ place then 26 else place - bias

/-- Divide by 35 down to at most 455, in at most `n` steps of weight 36 each. -/
def flatten : Nat → Nat → Nat → Nat
  | 0, _, place => place
  | n + 1, delta, place =>
    if 455 < delta then flatten n (delta / 35) (place + 36) else place + 36 * delta / (delta + 38)

def adapt (delta count : Nat) (first : Bool) : Nat :=
  let damped := if first then delta / 700 else delta / 2
  let delta := damped + damped / count
  flatten delta delta 0

def digits (bias : Nat) : Nat → Nat → Nat → List Char
  | 0, _, q => [digitChar q]
  | n + 1, place, q =>
    let t := threshold place bias
    if q < t then [digitChar q]
    else digitChar (t + (q - t) % (36 - t)) :: digits bias n (place + 36) ((q - t) / (36 - t))

structure Encoding where
  delta : Nat
  bias : Nat
  /-- How many characters have their place. -/
  count : Nat
  text : List Char

/-- Pass over a character while those with the number `m` get their places. -/
def pass (basic m : Nat) (e : Encoding) (c : Char) : Encoding :=
  if c.toNat < m then { e with delta := e.delta + 1 }
  else if c.toNat = m then
    { delta := 0
      bias := adapt e.delta (e.count + 1) (e.count == basic)
      count := e.count + 1
      text := e.text ++ digits e.bias e.delta 36 e.delta }
  else e

def passAll (cs : List Char) (basic : Nat) : List Nat → Nat → Encoding → Encoding
  | [], _, e => e
  | m :: ms, next, e =>
    let e := cs.foldl (pass basic m) { e with delta := e.delta + (m - next) * (e.count + 1) }
    passAll cs basic ms (m + 1) { e with delta := e.delta + 1 }

def insertNumber (n : Nat) : List Nat → List Nat
  | [] => [n]
  | m :: ms => if n < m then n :: m :: ms else if n = m then m :: ms else m :: insertNumber n ms

def encode (cs : List Char) : List Char :=
  let basic := cs.filter fun c => c.toNat < 128
  let numbers := ((cs.filter fun c => 128 ≤ c.toNat).map Char.toNat).foldl (fun ns n => insertNumber n ns) []
  let e := passAll cs basic.length numbers 128 ⟨0, 72, basic.length, []⟩
  if basic.isEmpty then e.text else basic ++ '-' :: e.text

def number? (bias : Nat) : Nat → Nat → Nat → List Char → Option (Nat × List Char)
  | _, _, _, [] => none
  | place, weight, sum, c :: cs =>
    match digitValue? c with
    | none => none
    | some d =>
      let t := threshold place bias
      let sum := sum + d * weight
      if d < t then some (sum, cs) else number? bias (place + 36) (weight * (36 - t)) sum cs

def insertAt (place : Nat) (c : Char) (cs : List Char) : List Char :=
  cs.take place ++ c :: cs.drop place

/-- Put the characters that are given by numbers into `text`, at most `n` of them. `code` is the
number of the latest character and `place` the place after it. -/
def decodeFrom : Nat → Nat → Nat → Nat → Bool → List Char → List Char → Option (List Char)
  | _, _, _, _, _, text, [] => some text
  | 0, _, _, _, _, _, _ => none
  | n + 1, code, place, bias, first, text, cs =>
    match number? bias 36 1 0 cs with
    | none => none
    | some (delta, rest) =>
      let total := place + delta
      let size := text.length + 1
      let code := code + total / size
      if code < 0x110000 then
        decodeFrom n code (total % size + 1) (adapt delta size first) false
          (insertAt (total % size) (Char.ofNat code) text) rest
      else none

/-- The text that is encoded; its ASCII characters stand before the last hyphen. -/
def decode? (cs : List Char) : Option (List Char) :=
  let tail := (cs.reverse.takeWhile (· != '-')).reverse
  let basic := (cs.take (cs.length - tail.length)).dropLast
  decodeFrom tail.length 128 0 72 true basic tail

end Runbook.Http.Punycode
