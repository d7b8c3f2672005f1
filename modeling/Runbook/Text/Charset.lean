import Runbook.Text.Utf8

namespace Runbook.Text

inductive ByteOrder where
  | big
  | little
deriving DecidableEq, Repr

inductive Charset where
  | utf8
  /-- With a mark in front that does not belong to the text. -/
  | utf8Marked
  | ascii
  | latin1
  | windows1252
  /-- Units of two bytes, in an order that is known or that a mark in front gives. -/
  | utf16 (order : Option ByteOrder)
  /-- Units of four bytes. -/
  | utf32 (order : Option ByteOrder)
deriving DecidableEq, Repr

namespace Charset

def plainName : Bool → List Char → List Char
  | _, [] => []
  | gap, c :: cs =>
    if c.isAlphanum || c == '.' then
      (if gap then ['_'] else []) ++ c.toLower :: plainName false cs
    else plainName true cs

def ofName? (name : String) : Option Charset :=
  match String.ofList (plainName false name.toList) with
  | "utf_8" | "utf8" | "utf" | "u8" | "cp65001" | "utf8_ucs2" | "utf8_ucs4" => some utf8
  | "utf_8_sig" => some utf8Marked
  | "ascii" | "us_ascii" | "us" | "646" | "cp367" | "ibm367" | "csascii" | "iso646_us" | "iso_ir_6"
  | "ansi_x3.4_1968" | "ansi_x3_4_1968" | "ansi_x3.4_1986" => some ascii
  | "latin_1" | "latin1" | "latin" | "l1" | "iso_8859_1" | "iso8859_1" | "iso8859" | "8859" | "cp819"
  | "ibm819" | "csisolatin1" | "iso_ir_100" | "iso_8859_1_1987" => some latin1
  | "cp1252" | "windows_1252" | "1252" => some windows1252
  | "utf_16" | "utf16" | "u16" => some (utf16 none)
  | "utf_16_be" | "utf_16be" | "unicodebigunmarked" => some (utf16 (some .big))
  | "utf_16_le" | "utf_16le" | "unicodelittleunmarked" => some (utf16 (some .little))
  | "utf_32" | "utf32" | "u32" => some (utf32 none)
  | "utf_32_be" | "utf_32be" => some (utf32 (some .big))
  | "utf_32_le" | "utf_32le" => some (utf32 (some .little))
  | _ => none

/-- The characters from `0x80` on that are not those of the same number; `0` stands for none. -/
def windowsNumbers : List Nat := [
  0x20AC, 0, 0x201A, 0x192, 0x201E, 0x2026, 0x2020, 0x2021, 0x2C6, 0x2030, 0x160, 0x2039, 0x152, 0,
  0x17D, 0, 0, 0x2018, 0x2019, 0x201C, 0x201D, 0x2022, 0x2013, 0x2014, 0x2DC, 0x2122, 0x161, 0x203A,
  0x153, 0, 0x17E, 0x178]

def windowsChar? (b : UInt8) : Option Char :=
  match if 0x80 ≤ b.toNat then windowsNumbers[b.toNat - 0x80]? else none with
  | none => some (Char.ofNat b.toNat)
  | some 0 => none
  | some n => some (Char.ofNat n)

def char? (n : Nat) : Option Char := if n.isValidChar then some (Char.ofNat n) else none

/-- The numbers of units of two bytes; a byte that is left over makes none. -/
def pairs (order : ByteOrder) : List UInt8 → List (Option Nat)
  | [] => []
  | [_] => [none]
  | a :: b :: bs =>
    let n := match order with
      | .big => a.toNat * 256 + b.toNat
      | .little => b.toNat * 256 + a.toNat
    some n :: pairs order bs

def isHigh (n : Nat) : Bool := 0xD800 ≤ n && n < 0xDC00

def isLow (n : Nat) : Bool := 0xDC00 ≤ n && n < 0xE000

def joinPairs : List (Option Nat) → List (Option Char)
  | [] => []
  | some h :: some l :: us =>
    if isHigh h && isLow l then
      char? (0x10000 + (h - 0xD800) * 0x400 + (l - 0xDC00)) :: joinPairs us
    else char? h :: joinPairs (some l :: us)
  | some n :: us => char? n :: joinPairs us
  | none :: us => none :: joinPairs us

def quads (order : ByteOrder) : List UInt8 → List (Option Char)
  | [] => []
  | a :: b :: c :: d :: bs =>
    let n := match order with
      | .big => ((a.toNat * 256 + b.toNat) * 256 + c.toNat) * 256 + d.toNat
      | .little => ((d.toNat * 256 + c.toNat) * 256 + b.toNat) * 256 + a.toNat
    char? n :: quads order bs
  | _ => [none]

def marked? : Charset → List UInt8 → Option (Charset × List UInt8)
  | utf16 none, 0xFE :: 0xFF :: bs => some (utf16 (some .big), bs)
  | utf16 none, 0xFF :: 0xFE :: bs => some (utf16 (some .little), bs)
  | utf32 none, 0 :: 0 :: 0xFE :: 0xFF :: bs => some (utf32 (some .big), bs)
  | utf32 none, 0xFF :: 0xFE :: 0 :: 0 :: bs => some (utf32 (some .little), bs)
  | utf8Marked, 0xEF :: 0xBB :: 0xBF :: bs => some (utf8, bs)
  | _, _ => none

/-- The characters of bytes, with nothing in place of what is none. Units in an unknown order make
no characters. -/
def chars (c : Charset) (bs : List UInt8) : Option (List (Option Char)) :=
  match c with
  | utf8 | utf8Marked => some (Utf8.decodeWith [none] some none bs)
  | ascii => some (bs.map fun b => if b < 0x80 then some (Char.ofNat b.toNat) else none)
  | latin1 => some (bs.map fun b => some (Char.ofNat b.toNat))
  | windows1252 => some (bs.map windowsChar?)
  | utf16 (some order) => some (joinPairs (pairs order bs))
  | utf32 (some order) => some (quads order bs)
  | utf16 none => if bs.length < 2 then some (bs.map fun _ => none) else none
  | utf32 none => if bs.length < 4 then some (if bs.isEmpty then [] else [none]) else none

def charsAfterMark (c : Charset) (bs : List UInt8) : Option (List (Option Char)) :=
  let (c, bs) := (marked? c bs).getD (c, bs)
  chars c bs

/-- The text of bytes, none if their order is not known. -/
def decodeLossy? (c : Charset) (bs : List UInt8) : Option (List Char) :=
  (charsAfterMark c bs).map fun cs => cs.map fun c => c.getD (Char.ofNat 0xFFFD)

def decode? (c : Charset) (bs : List UInt8) : Option (List Char) :=
  (charsAfterMark c bs).bind fun cs => cs.mapM id

def detect : List UInt8 → Charset
  | 0 :: 0 :: 0xFE :: 0xFF :: _ => utf32 none
  | 0xFF :: 0xFE :: 0 :: 0 :: _ => utf32 none
  | 0xFE :: 0xFF :: _ => utf16 none
  | 0xFF :: 0xFE :: _ => utf16 none
  | 0xEF :: 0xBB :: 0xBF :: _ => utf8Marked
  | 0 :: b :: _ :: _ :: _ => if b = 0 then utf32 (some .big) else utf16 (some .big)
  | _ :: 0 :: c :: d :: _ => if c = 0 && d = 0 then utf32 (some .little) else utf16 (some .little)
  | [0, _] => utf16 (some .big)
  | [_, 0] => utf16 (some .little)
  | _ => utf8

end Charset

end Runbook.Text
