import Runbook.Notice
import Runbook.Plan
import Runbook.Storage
import Runbook.Yaml.Fault

namespace Runbook.Corpus

def failuresName : String := "mqfails.jsonl"

def newFailuresName : String := "newFails.jsonl"

def metadataName : String := "meta.yml"

/-- With this fuzz type every record is one of the plan's. -/
def everyType : String := "all"

def isOwn (p : Plan) (x : Payload) : Bool := p.fuzzType == x.fuzzType || p.fuzzType == everyType

/-- How many records were the plan's own and how many were others. -/
structure Tally where
  own : Nat
  others : Nat

def take (p : Plan) (n : Tally) (x : Payload) : Except Fault (Plan × Tally) :=
  if isOwn p x then
    (p.oldFailures.add x).map fun i => ({ p with oldFailures := i }, { n with own := n.own + 1 })
  else .ok ({ p with otherFailures := p.otherFailures ++ [x] }, { n with others := n.others + 1 })

def record (path : String) (number : Nat) (line : List Char) : Except Fault Payload :=
  match Payload.readLine (String.ofList line) with
  | .ok x => .ok x
  | .mistaken ms => .error (.badRecord path number ms)

/-- Take the records of lines that are numbered from `number` on. Blank lines are passed over, and
what stands before a bad line is kept. -/
def takeLines (path : String) : List (List Char) → Nat → Plan → Tally → Plan × Except Fault Tally
  | [], _, p, n => (p, .ok n)
  | line :: ls, number, p, n =>
    if line.all Text.isBlank then takeLines path ls (number + 1) p n
    else
      match record path number line with
      | .error f => (p, .error f)
      | .ok x =>
        match take p n x with
        | .error f => (p, .error f)
        | .ok (p, n) => takeLines path ls (number + 1) p n

/-- Read the corpus of a directory into a plan: its own records become known failures, and the others
are kept as they are. -/
def readFailures (s : Storage) (directory : String) (p : Plan) : Plan × Except Fault Notice :=
  let path := Storage.inDirectory directory failuresName
  match s.readText path with
  | .error f => (p, .error (.file f))
  | .ok cs =>
    let (p, r) := takeLines path (Text.cutAt '\n' cs) 1 p ⟨0, 0⟩
    (p, r.map fun n => .readFailures n.own p.fuzzType n.others)

/-- The entries of metadata that was read. A key that is no text for its surrogates is written with
replacement characters; elsewhere such a text cannot be written. -/
def metadataEntries (es : List (Value × Value)) : List (Value × Value) :=
  let key : Value → Value
    | .str s =>
      .str (String.ofList (Text.Utf8.decodeLossy ((Yaml.codes s.toList).flatMap Yaml.encodeCode)))
    | k => Yaml.unmarked k
  es.map fun e => (key e.1, Yaml.unmarked e.2)

/-- What a directory says about its runs. A file that is absent or holds no mapping says nothing. -/
def readMetadata (s : Storage) (directory : String) : Logged (Dict Value Value) :=
  let path := Storage.inDirectory directory metadataName
  match s.readText path with
  | .error (.missing _) => do
    note (.noMetadata path)
    pure .empty
  -- Only a file that cannot be read and a text that is no document are passed over.
  | .error .notText => throw (.file .notText)
  | .error _ => do
    note (.unreadableMetadata path)
    pure .empty
  | .ok cs =>
    match Yaml.read cs with
    | .error .malformed => do
      note (.unreadableMetadata path)
      pure .empty
    | .error f => throw (.data f.dataFault)
    | .ok (.map es) => pure (.ofList (metadataEntries es))
    | .ok _ => do
      note (.metadataNotMapping path)
      pure .empty

def lines : List Payload → String × Option Fault
  | [] => ("", none)
  | x :: xs =>
    match x.line with
    | .error f => ("", some f)
    | .ok line => (line ++ "\n" ++ (lines xs).1, (lines xs).2)

/-- Put metadata on records as they are written; a record that has no line ends the writing. -/
def stamp (m : Option (Dict Value Value)) : List Payload → List Payload
  | [] => []
  | x :: xs =>
    let y := { x with metadata := m }
    match y.line with
    | .error _ => y :: xs
    | .ok _ => y :: stamp m xs

structure Written where
  storage : Storage
  plan : Plan
  notices : List Notice
  fault : Option Fault

def writeNew (s : Storage) (path newPath : String) (m : Dict Value Value) (p : Plan) :
    Storage × Plan × Option Fault :=
  let stamped := stamp (if m.isEmpty then none else some m) p.newFailures
  -- Both files get the same lines, up to the first record that has none.
  let (text, fault) := lines stamped
  ((s.append path text).append newPath text, { p with newFailures := stamped }, fault)

/-- Write to files that are open. A plan that reproduces failures writes those of other types first,
for the file starts empty then. -/
def writeOpen (s : Storage) (path newPath : String) (m : Dict Value Value) (p : Plan) :
    Storage × Plan × Option Fault :=
  let (text, fault) := if p.repro then lines p.otherFailures else ("", none)
  let s := s.append path text
  match fault with
  | some f => (s, p, some f)
  | none => writeNew s path newPath m p

/-- Write the new failures of a plan to the corpus of a directory, with the metadata found there.
They are added at its end, unless the plan reproduces failures: then they and the failures of other
types become the corpus. -/
def writeFailures (s : Storage) (directory : String) (p : Plan) : Written :=
  let path := Storage.inDirectory directory failuresName
  let newPath := Storage.inDirectory directory newFailuresName
  match (readMetadata s directory).run [] with
  | (.error f, notices) => ⟨s, p, notices, some f⟩
  | (.ok m, notices) =>
    match s.openFor (!p.repro) path with
    | .error f => ⟨s, p, notices, some (.file f)⟩
    | .ok s =>
      match s.openFor false newPath with
      | .error f => ⟨s, p, notices, some (.file f)⟩
      | .ok s =>
        match writeOpen s path newPath m p with
        | (s, p, some f) => ⟨s, p, notices, some f⟩
        | (s, p, none) =>
          ⟨s, p, notices ++ [.wroteFailures p.newFailures.length path p.repro], none⟩

end Runbook.Corpus
