import Runbook.Notice
import Runbook.Plan
import Runbook.Storage
import Runbook.Yaml.Fault

namespace Runbook

namespace PlanFile

/-- A line of three dashes, with the carriage return that may end it. -/
def isSeparator (line : List Char) : Bool :=
  line == ['-', '-', '-'] || line == ['-', '-', '-', '\r']

/-- Lines in groups. A separator ends a group and starts the next, and is an empty line in both. -/
def groupLines : List (List Char) → List (List (List Char))
  | [] => [[]]
  | l :: ls =>
    match groupLines ls with
    | [] => [[l]]
    | g :: gs => if isSeparator l then [[]] :: ([] :: g) :: gs else (l :: g) :: gs

def joinLines (ls : List (List Char)) : List Char := (ls.intersperse ['\n']).flatten

def splitChunks (text : String) : List String :=
  (groupLines (Text.cutAt '\n' text.toList)).map fun g => String.ofList (joinLines g)

def repeatedKey? (seen : List String) : List (Yaml.Node × Yaml.Node) → Option String
  | [] => none
  | (.scalar _ key, _) :: es =>
    if seen.contains key then some key else repeatedKey? (key :: seen) es
  | _ :: es => repeatedKey? seen es

def repeatedName? : Option Yaml.Node → Option String
  | some (.mapping _ es) => repeatedKey? [] es
  | _ => none

/-- A fault of reading; a text that is no document at all is noted. -/
def readFault {α : Type} (chunk : String) (index : Int) : Yaml.ReadFault → Logged α
  | .malformed => do
    note (.badChunk index chunk)
    throw (.chunk index .notYaml)
  | f => throw (.data f.dataFault)

/-- The data of a chunk, in which no suite may be named twice. -/
def decode (chunk : String) (index : Int) : Logged Value :=
  match Yaml.Node.ofText chunk.toList with
  | .error f => readFault chunk index f
  | .ok node =>
    -- Names are compared as they are written, before values are made of them.
    match repeatedName? node with
    | some name => do
      note (.duplicateInChunk index)
      throw (.duplicateSuite name)
    | none =>
      match node with
      | none => pure .null
      | some n =>
        match Yaml.Construct.ofNode n with
        | .error f => readFault chunk index f
        | .ok v => pure v

def orValueFault {α : Type} : Option α → Logged α
  | some a => pure a
  | none => throw (.data .value)

def checkTests : List Value → Checked (List Test)
  | [] => .ok []
  | v :: vs =>
    match Check.test v with
    | .mistaken ms => .mistaken ms
    | .ok t => (checkTests vs).map (t :: ·)

/-- What stands under the name of a suite. Nothing at all is no step. -/
def listed? : Value → Option (List Value)
  | .null => some []
  | .list vs => some vs
  | _ => none

def suiteTests (chunk : String) (index : Int) (name : Value) (tests : Value) : Logged (List Test) :=
  match listed? tests with
  | none => do throw (.chunk index (.notTestList (← orValueFault name.literal?)))
  | some vs =>
    match checkTests vs with
    | .ok ts => pure ts
    | .mistaken ms => do
      note (.badChunk index chunk)
      throw (.chunk index (.badTest (← orValueFault name.literal?) ms))

/-- The suites of the entries after those in `suites`. Names that read the same are one name. -/
def suitesOf (chunk : String) (index : Int) :
    List (Value × Value) → Dict String (List Test) → Logged (Dict String (List Test))
  | [], suites => pure suites
  | (name, tests) :: es, suites => do
    let ts ← suiteTests chunk index name tests
    suitesOf chunk index es (suites.put (← orValueFault name.text?) ts)

def decodeSuites (chunk : String) (index : Int) : Logged (Dict String (List Test)) := do
  match ← decode chunk index with
  | .null => pure .empty
  | .map es => suitesOf chunk index es .empty
  | _ => throw (.chunk index .notMapping)

def takenName? (p : Plan) (suites : Dict String (List Test)) : Option String :=
  suites.keys.find? fun n => n != initName && p.suites.contains n

/-- Declare a suite, or take over the defaults that one holds. -/
def register (p : Plan) (name : String) (tests : List Test) : Except Fault Plan :=
  if name = initName then .ok (tests.foldl Plan.applyDefaults p)
  else p.add (p.createSuite name (tests.map fun t => { t with suite := name }))

structure Intake where
  plan : Plan
  notices : List Notice

/-- Work on a plan. It leaves the plan as it has come to stand, also when it fails. -/
abbrev Taking := ExceptT Fault (StateM Intake)

namespace Taking

def aside {α : Type} (x : Logged α) : Taking α :=
  ExceptT.mk fun s =>
    let (r, ns) := x.run s.notices
    (r, { s with notices := ns })

def onto (p : Plan) (x : Taking Unit) : Logged Plan :=
  ExceptT.mk fun ns =>
    let (r, s) := x.run ⟨p, ns⟩
    (r.map fun _ => s.plan, s.notices)

end Taking

def registerAll : List (String × List Test) → Taking Unit
  | [] => pure ()
  | (name, tests) :: es => do
    let s ← get
    match register s.plan name tests with
    | .ok p => do
      set { s with plan := p }
      registerAll es
    | .error f => throw f

def takeChunk (chunk : String) (index : Int) : Taking Unit := do
  let suites ← Taking.aside (decodeSuites chunk index)
  -- No suite is declared before all names are known to be free.
  match takenName? (← get).plan suites with
  | some name => do
    Taking.aside (note (.duplicateSuite name index))
    throw (.duplicateSuite name)
  | none => registerAll suites.entries

/-- Take in chunks that are numbered from `index` on. -/
def takeChunks : List String → Int → Taking Unit
  | [], _ => pure ()
  | c :: cs, index => do
    takeChunk c index
    takeChunks cs (index + 1)

def addChunk (p : Plan) (chunk : String) (index : Int) : Logged Plan :=
  Taking.onto p (takeChunk chunk index)

def load (s : Storage) (path : String) (o : Plan.Options) : Logged Plan :=
  match s.readText (Storage.normal path) with
  | .error .notText => throw (.file .notText)
  | .error f => do
    note (.unreadablePlan path)
    throw (.file f)
  | .ok cs => do
    let p ← Taking.onto (.ofOptions o) (takeChunks (splitChunks (String.ofList cs)) 0)
    note (.loadedPlan p.suites.size path)
    pure p

end PlanFile

end Runbook
