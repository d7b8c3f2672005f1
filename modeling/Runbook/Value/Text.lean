import Runbook.Text.Quoted
import Runbook.Number.Numeral
import Runbook.Value

namespace Runbook.Value

/-- Numbers have a point or an exponent; positional notation is used from `0.0001` to below
`10 ^ 16`. -/
def numbers : NumberLayout where
  lowest := -4
  highest := 15
  exponentDigits := 2
  pointBeforeExponent := false
  nan := "nan"
  infinity := "inf"

def intText? (n : Int) : Option String :=
  if (natDigits n.natAbs).length ≤ Numeral.digitLimit then some (String.ofList (intDigits n)) else none

def durationLiteral (minutes : Int) : String :=
  let seconds := minutes * 60
  let days := seconds.fdiv 86400
  let rest := seconds.fmod 86400
  let parts :=
    (if days = 0 then [] else ["days=" ++ toString days]) ++
      (if rest = 0 then [] else ["seconds=" ++ toString rest])
  "datetime.timedelta(" ++ (if parts.isEmpty then "0" else ", ".intercalate parts) ++ ")"

def offsetLiteral : Int → String
  | 0 => "datetime.timezone.utc"
  | o => "datetime.timezone(" ++ durationLiteral o ++ ")"

def dateLiteral (d : Date) : String :=
  "datetime.date(" ++ ", ".intercalate ([d.year, d.month, d.day].map toString) ++ ")"

def dateTimeLiteral (t : DateTime) : String :=
  let d := t.date
  let smallest :=
    if t.micro ≠ 0 then [t.second, t.micro] else if t.second ≠ 0 then [t.second] else []
  let parts := ([d.year, d.month, d.day, t.hour, t.minute] ++ smallest).map toString
  let zone :=
    match t.offset with
    | some o => ["tzinfo=" ++ offsetLiteral o]
    | none => []
  "datetime.datetime(" ++ ", ".intercalate (parts ++ zone) ++ ")"

mutual

def literal? : Value → Option String
  | null => some "None"
  | bool b => some (if b then "True" else "False")
  | int n => intText? n
  | float x => some (numbers.text x)
  | str s => some (Text.quoted s)
  | bytes data => some (Text.quotedBytes data)
  | date d => some (dateLiteral d)
  | dateTime t => some (dateTimeLiteral t)
  | list items => (literals? items).map fun ts => "[" ++ ", ".intercalate ts ++ "]"
  | tuple items =>
    (literals? items).map fun
      | [t] => "(" ++ t ++ ",)"
      | ts => "(" ++ ", ".intercalate ts ++ ")"
  | set items =>
    (literals? items).map fun
      | [] => "set()"
      | ts => "\x7b" ++ ", ".intercalate ts ++ "\x7d"
  | map entries => (entryLiterals? entries).map fun ts => "\x7b" ++ ", ".intercalate ts ++ "\x7d"

def literals? : List Value → Option (List String)
  | [] => some []
  | v :: vs =>
    match literal? v, literals? vs with
    | some t, some ts => some (t :: ts)
    | _, _ => none

def entryLiterals? : List (Value × Value) → Option (List String)
  | [] => some []
  | (k, v) :: es =>
    match literal? k, literal? v, entryLiterals? es with
    | some kt, some vt, some ts => some ((kt ++ ": " ++ vt) :: ts)
    | _, _, _ => none

end

def text? : Value → Option String
  | str s => some s
  | date d => some d.text
  | dateTime t => some (t.text " ")
  | v => literal? v

end Runbook.Value
