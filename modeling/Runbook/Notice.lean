import Runbook.Fault

namespace Runbook

inductive Level where
  | debug
  | info
  | warning
  | error
deriving DecidableEq, Repr

inductive Channel where
  | loader
  | corpus
  | engine
  | runner
deriving DecidableEq, Repr

inductive Notice where
  | duplicateInChunk (index : Int)
  | badChunk (index : Int) (text : String)
  | duplicateSuite (name : String) (index : Int)
  | unreadablePlan (path : String)
  | loadedPlan (suites : Nat) (path : String)
  | readFailures (known : Nat) (fuzzType : String) (other : Nat)
  | noMetadata (path : String)
  /-- The wording ends where that of the cause begins. -/
  | unreadableMetadata (path : String)
  | metadataNotMapping (path : String)
  | wroteFailures (count : Nat) (path : String) (repro : Bool)
  | suiteNotFound (name : String)
  | stepFailed (method path name reason : String)
  | requestFailed (method url reason : String)
  | answered (method url : String) (status : Int)
deriving DecidableEq, Repr

namespace Notice

def level : Notice → Level
  | duplicateInChunk _ | badChunk .. | duplicateSuite .. | unreadablePlan _ => .error
  | loadedPlan .. | readFailures .. | wroteFailures .. => .info
  | noMetadata _ | metadataNotMapping _ => .warning
  | unreadableMetadata _ | suiteNotFound _ | stepFailed .. | requestFailed .. => .error
  | answered .. => .debug

def channel : Notice → Channel
  | duplicateInChunk _ | badChunk .. | duplicateSuite .. | unreadablePlan _ | loadedPlan .. => .loader
  | readFailures .. | noMetadata _ | unreadableMetadata _ | metadataNotMapping _
  | wroteFailures .. => .corpus
  | suiteNotFound _ | stepFailed .. => .engine
  | requestFailed .. | answered .. => .runner

def message : Notice → String
  | duplicateInChunk index => "Duplicate suite name in chunk " ++ toString index
  | badChunk index text =>
    "The following is not a valid test suite (chunk " ++ toString index ++ "):\n" ++ text
  | duplicateSuite name index =>
    "Duplicate name " ++ name ++ " found in test plan (chunk " ++ toString index ++ ")"
  | unreadablePlan path => "Can't open the following file: " ++ path
  | loadedPlan suites path => "Loaded " ++ toString suites ++ " suite(s) from " ++ path
  | readFailures known fuzzType other =>
    "Read " ++ toString known ++ " known failure(s) for fuzz type " ++ fuzzType ++ ", " ++
      toString other ++ " of other types"
  | noMetadata path => "Metadata file not found: " ++ path
  | unreadableMetadata path => "Could not read metadata " ++ path ++ ": "
  | metadataNotMapping path => "Metadata in " ++ path ++ " is not a mapping, ignoring it"
  | wroteFailures count path repro =>
    "Wrote " ++ toString count ++ " new failure(s) to " ++ path ++
      (if repro then " (repro)" else " (append)")
  | suiteNotFound name => "The following test suite is not found: " ++ name
  | stepFailed method path name reason => method ++ " " ++ path ++ " (" ++ name ++ "): " ++ reason
  | requestFailed method url reason => method ++ " " ++ url ++ " failed: " ++ reason
  | answered method url status => method ++ " " ++ url ++ " -> " ++ toString status

end Notice

abbrev Logged := ExceptT Fault (StateM (List Notice))

def note (n : Notice) : Logged Unit := modify (· ++ [n])

end Runbook
