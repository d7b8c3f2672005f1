import Runbook.Json.Reading
import Runbook.Params
import Runbook.Value.Json

namespace Runbook

structure Payload where
  endpoint : String
  method : String
  field : String
  value : Value
  fuzzType : String
  /-- What is known about the run that found the failure. -/
  metadata : Option (Dict Value Value)

namespace Check

def metadata : Value → Checked (Option (Dict Value Value))
  | .null => .ok none
  | v => (fun s => some (Slot.anyKeys s)) <$> mapping v

def payload : Value → Checked Payload
  | .map es =>
    Payload.mk <$> field es "endpoint" [] text (.fail .present)
      <*> field es "method" [] text (.fail .present)
      <*> field es "field" [] text (.fail .present)
      <*> field es "value" [] .ok (.ok .null)
      <*> field es "fuzzType" ["fuzz_type"] text (.ok "")
      <*> field es "meta" [] metadata (.ok none)
  | _ => .fail .record

end Check

namespace Payload

/-- Lists and mappings in a record may be nested this deep. -/
def depthLimit : Nat := 200

def readLine (line : String) : Checked Payload :=
  match Json.read (some depthLimit) line.toList with
  | .ok j => Check.payload (.ofJson j)
  | .error _ => .fail .json

/-- Numbers are positional from `0.00001` to below `10 ^ 16`. -/
def style : Json.Style where
  comma := ","
  colon := ":"
  asciiOnly := false
  numbers := {
    lowest := -5
    highest := 15
    exponentDigits := 1
    pointBeforeExponent := false
    nan := "null"
    infinity := "null" }

def bytesText (data : List UInt8) : Except Fault String :=
  match Text.Utf8.decode? data with
  | some cs => .ok (String.ofList cs)
  | none => .error (.data .unwritable)

def timeText (t : DateTime) : String :=
  if t.offset = some 0 then { t with offset := none }.text "T" ++ "Z" else t.text "T"

mutual

def keyText : Value → Except Fault String
  | .str s => .ok s
  | .bool b => .ok (if b then "true" else "false")
  | .bytes data => bytesText data
  | .dateTime t => .ok (timeText t)
  | .tuple vs => (keyTexts vs).map (",".intercalate ·)
  | v => v.text?.elim (.error (.data .value)) .ok

def keyTexts : List Value → Except Fault (List String)
  | [] => .ok []
  | v :: vs =>
    match keyText v, keyTexts vs with
    | .ok t, .ok ts => .ok (t :: ts)
    | .error f, _ => .error f
    | _, .error f => .error f

end

/-- What is no data of a document is written as the nearest thing that is: a number that is not
finite as null, everything else as text. A whole number may be longer than the ones that are read. -/
def rules : Value.JsonRules where
  whole n := .ok (.int n)
  number
    | .finite s m => .ok (.float (.finite s m))
    | _ => .ok .null
  key := keyText
  setsAreLists := true
  other
    | .bytes data => (bytesText data).map .str
    | .date d => .ok (.str d.text)
    | .dateTime t => .ok (.str (timeText t))
    | _ => .error (.data .unwritable)
  sorted := false

/-- So many values may lie one inside the other where a value is written. -/
def writtenDepth : Nat := 255

def jsonEntry (name : String) (deepest : Nat) : Value → Except Fault (List (String × Json))
  | .null => .ok []
  | v =>
    if v.depth ≤ deepest then (v.toJson rules).map fun j => [(name, j)]
    else .error (.data .unwritable)

/-- The record as a document; an absent value or absent metadata is left out. The mapping of the
metadata does not count as one of the values that lie one inside the other. -/
def toJson (p : Payload) : Except Fault Json :=
  match jsonEntry "value" writtenDepth p.value,
    jsonEntry "meta" (writtenDepth + 1) (p.metadata.elim .null fun d => .map d.entries) with
  | .ok value, .ok metadata =>
    .ok (.map ([("endpoint", .str p.endpoint), ("method", .str p.method), ("field", .str p.field)] ++
      value ++ [("fuzzType", .str p.fuzzType)] ++ metadata))
  | .error f, _ => .error f
  | _, .error f => .error f

def line (p : Payload) : Except Fault String := p.toJson.map style.text

end Payload

end Runbook
