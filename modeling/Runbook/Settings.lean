import Runbook.Auth
import Runbook.Corpus
import Runbook.Plan
import Runbook.Settings.EnvFile
import Runbook.Storage
import Runbook.Text.Case

namespace Runbook

structure Settings where
  /-- The directory of the corpus. -/
  directory : String
  planPath : String
  /-- Where to write what was executed, if anywhere. -/
  resultPath : String
  suite : String
  baseUrl : String
  auth : Auth
  fuzzType : String
  repro : Bool
  logLevel : String

namespace Settings

def isSet (value : Option String) : Bool :=
  let word := Text.lower (String.ofList (Text.strip (value.getD "").toList))
  word == "1" || word == "true" || word == "yes" || word == "on"

def join (directory name : String) : String :=
  match directory.toList.getLast? with
  | none => name
  | some c => if c = '/' then directory ++ name else directory ++ "/" ++ name

def variableNames : List String := ["MEQA_PATH", "MEQA_PLAN", "MEQA_RESULT", "MEQA_SUITE",
  "MEQA_BASE_URL", "MEQA_USERNAME", "MEQA_PASSWORD", "MEQA_API_TOKEN", "MEQA_FUZZ_TYPE", "MEQA_REPRO",
  "MEQA_LOG_LEVEL"]

def ofEnvironment (env : Environment) : Settings :=
  let get (name default : String) := (env.get? name).getD default
  let directory := get "MEQA_PATH" "."
  let plan := get "MEQA_PLAN" ""
  { directory
    planPath := if plan.isEmpty then join directory "simple.yml" else plan
    resultPath := get "MEQA_RESULT" ""
    suite := get "MEQA_SUITE" "all"
    baseUrl := get "MEQA_BASE_URL" ""
    auth := ⟨get "MEQA_USERNAME" "", get "MEQA_PASSWORD" "", get "MEQA_API_TOKEN" ""⟩
    fuzzType := get "MEQA_FUZZ_TYPE" "none"
    repro := isSet (env.get? "MEQA_REPRO")
    logLevel := get "MEQA_LOG_LEVEL" "INFO" }

/-- The suites to run, none if all are. -/
def suites (s : Settings) : Option (List String) :=
  if s.suite == "all" then none else some [s.suite]

def options (s : Settings) : Plan.Options := ⟨none, s.baseUrl, s.auth, s.fuzzType, s.repro⟩

def upwards : FilePath → List FilePath
  | p => (List.range (p.length + 1)).map fun n => p.take (p.length - n)

/-- The nearest file `.env`, in the working directory or above it. -/
def envFile? (s : Storage) : Option (List UInt8) :=
  (upwards s.cwd).findSome? fun p => s.file? (p ++ [".env"])

def paths (s : Settings) : List String :=
  [s.planPath, s.resultPath] ++
    [Corpus.failuresName, Corpus.newFailuresName, Corpus.metadataName].map
      (Storage.inDirectory s.directory)

def environment (s : Storage) (env : Environment) : Except Fault Environment :=
  match envFile? s with
  | none => .ok env
  | some data =>
    match Text.Utf8.decode? data with
    | none => .error (.file .notText)
    | some cs => EnvFile.extend env (Text.unifyNewlines cs)

def load (s : Storage) (env : Environment) : Except Fault Settings :=
  (environment s env).map ofEnvironment

end Settings

/-- The rank from which on a log of this level takes notices. -/
def logRank? : String → Option Int
  | "NOTSET" => some 0
  | "DEBUG" => some 10
  | "INFO" => some 20
  | "WARNING" | "WARN" => some 30
  | "ERROR" => some 40
  | "CRITICAL" | "FATAL" => some 50
  | _ => none

end Runbook
