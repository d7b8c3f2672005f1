import Runbook.Check
import Runbook.Http.UrlFault

namespace Runbook

structure StepFailure where
  message : String
  status : Option Int
deriving DecidableEq, Repr

/-- Why a reference to an earlier step has no value. -/
inductive ReferenceFault where
  | malformed (expr : String)
  | unknownStep (name : String)
  | missingPart (expr part : String)
  | unknownSlot (expr slot : String)
  | unknownSection (expr name : String)
deriving DecidableEq, Repr

/-- Why a chunk holds no suites; a suite is given as a literal. -/
inductive ChunkFault where
  | notYaml
  | notMapping
  | notTestList (suite : String)
  | badTest (suite : String) (mistakes : List Mistake)
deriving DecidableEq, Repr

inductive WriteFault where
  | opening (path : String)
  | writing (what : String)
  | short (what : String)
deriving DecidableEq, Repr

inductive FileFault where
  | missing (path : String)
  | directory (path : String)
  | notDirectory (path : String)
  /-- The file holds no text. -/
  | notText
deriving DecidableEq, Repr

/-- Why an operation does not take a piece of data. -/
inductive DataFault where
  | kind
  | value
  | missingKey
  | missingIndex
  | tooLarge
  /-- The data lacks what the operation needs of it. -/
  | unsuited
  | unwritable
deriving DecidableEq, Repr

inductive ExchangeFault where
  | url (cause : Http.UrlFault)
  /-- A header that is not all ASCII. -/
  | notAscii
  /-- A host name whose encoded form stands for none. -/
  | hostName
  /-- An answer in units of two or four bytes that does not say in which order they stand. -/
  | byteOrder
deriving DecidableEq, Repr

inductive Fault where
  | duplicateSuite (name : String)
  | chunk (index : Int) (cause : ChunkFault)
  | suiteNotFound (name : String)
  /-- The names of the active suites and the one that is reached again. -/
  | recursion (chain : List String)
  | unresolved (cause : ReferenceFault)
  | badRecord (path : String) (line : Nat) (mistakes : List Mistake)
  | write (cause : WriteFault)
  | step (cause : StepFailure)
  | schema (message : String)
  | plan (message : String)
  | mistaken (mistakes : List Mistake)
  | data (cause : DataFault)
  | file (cause : FileFault)
  | exchange (cause : ExchangeFault)
  | runner (message : String)
  | markup
deriving DecidableEq, Repr

def ReferenceFault.message : ReferenceFault → String
  | malformed expr => "Malformed reference: " ++ expr
  | unknownStep name => "Referenced test not found in history: " ++ name
  | missingPart expr part => expr ++ ": '" ++ part ++ "' not found"
  | unknownSlot expr slot => expr ++ ": unknown parameter slot '" ++ slot ++ "'"
  | unknownSection expr name => expr ++ ": expected 'outputs' or 'inputs', got '" ++ name ++ "'"

def ChunkFault.message (index : Int) : ChunkFault → String
  | notYaml => "Chunk " ++ toString index ++ " is not valid YAML: "
  | notMapping => "Chunk " ++ toString index ++ " must map suite names to test lists"
  | notTestList suite =>
    "Chunk " ++ toString index ++ ": suite " ++ suite ++ " is not a list of tests"
  | badTest suite _ => "Chunk " ++ toString index ++ ": suite " ++ suite ++ " is invalid: "

def WriteFault.message : WriteFault → String
  | opening path => "opening " ++ path ++ " for writing failed: "
  | writing what => "writing " ++ what ++ " failed: "
  | short what => "writing " ++ what ++ " failed: short write"

def FileFault.message : FileFault → String
  | missing path => "[Errno 2] No such file or directory: " ++ Text.quoted path
  | directory path => "[Errno 21] Is a directory: " ++ Text.quoted path
  | notDirectory path => "[Errno 20] Not a directory: " ++ Text.quoted path
  | notText => ""

def Fault.message : Fault → String
  | duplicateSuite name => "Duplicate name " ++ name ++ " found in test plan"
  | chunk index cause => cause.message index
  | suiteNotFound name => "The following test suite is not found: " ++ name
  | recursion chain => " -> ".intercalate chain
  | unresolved cause => cause.message
  | badRecord path line _ => path ++ ":" ++ toString line ++ ": invalid failure record: "
  | write cause => cause.message
  | step cause => cause.message
  | schema message => message
  | plan message => message
  | file cause => cause.message
  | runner message => message
  | exchange (.url cause) => cause.message
  | _ => ""

end Runbook
