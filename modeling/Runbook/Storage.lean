import Runbook.Dict
import Runbook.Fault
import Runbook.Text.Blank
import Runbook.Text.Utf8

namespace Runbook

/-- The names on the way from the working directory to a file. -/
abbrev FilePath := List String

inductive Entry where
  | file (data : List UInt8)
  | directory

structure Storage where
  entries : Dict FilePath Entry
  /-- The working directory. -/
  cwd : FilePath

namespace Storage

def empty : Storage := ⟨.empty, []⟩

def names (path : String) : List String :=
  ((Text.cutAt '/' path.toList).map String.ofList).filter fun n => n != "" && n != "."

def isAbsolute (path : String) : Bool := path.toList.head? == some '/'

def normal (path : String) : String :=
  let joined := "/".intercalate (names path)
  if isAbsolute path then "/" ++ joined
  else if joined.isEmpty then "."
  else joined

def inDirectory (directory name : String) : String :=
  normal (if directory.isEmpty then name else directory ++ "/" ++ name)

def namesDirectory (path : String) : Bool :=
  match (Text.cutAt '/' path.toList).getLast? with
  | some cs => [[], ['.'], ['.', '.']].contains cs
  | none => true

def isDirectory (s : Storage) (p : FilePath) : Bool :=
  p.isPrefixOf s.cwd || s.entries.entries.any fun e =>
    match e.2 with
    | .directory => p.isPrefixOf e.1
    | .file _ => p.isPrefixOf e.1 && p != e.1

def file? (s : Storage) (p : FilePath) : Option (List UInt8) :=
  match s.entries.get? p with
  | some (.file data) => some data
  | _ => none

/-- Whether a name on the way is that of a file. -/
def isBlocked (s : Storage) (p : FilePath) : Bool :=
  (List.range p.length).any fun n => (s.file? (p.take n)).isSome

/-- Why nothing can be read or written at a place; `path` is what it is called. -/
def absence (s : Storage) (path : String) (p : FilePath) : FileFault :=
  if s.isBlocked p then .notDirectory path else .missing path

/-- Follow names from a place. Only from a directory a step leads up. -/
def follow (s : Storage) (path : String) : List String → FilePath → Except FileFault FilePath
  | [], p => .ok p
  | n :: ns, p =>
    if n == ".." then
      if s.isDirectory p then s.follow path ns p.dropLast
      else .error (if (s.file? p).isSome then .notDirectory path else s.absence path p)
    else s.follow path ns (p ++ [n])

def locate (s : Storage) (path : String) : Except FileFault FilePath :=
  s.follow path (names path) (if isAbsolute path then [] else s.cwd)

def exists? (s : Storage) (path : String) : Bool :=
  match s.locate path with
  | .ok p => (s.file? p).isSome || s.isDirectory p
  | .error _ => false

def readAt (s : Storage) (path : String) (p : FilePath) : Except FileFault (List UInt8) :=
  match s.file? p with
  | some data => .ok data
  | none => .error (if s.isDirectory p then .directory path else s.absence path p)

def read (s : Storage) (path : String) : Except FileFault (List UInt8) :=
  match s.locate path with
  | .ok p => s.readAt path p
  | .error f => .error f

/-- The text of a file, with every line end as `\n`. -/
def readText (s : Storage) (path : String) : Except FileFault (List Char) :=
  match s.read path with
  | .error f => .error f
  | .ok data =>
    match Text.Utf8.decode? data with
    | none => .error .notText
    | some cs => .ok (Text.unifyNewlines cs)

def putFile (s : Storage) (p : FilePath) (data : List UInt8) : Storage :=
  { s with entries := s.entries.put p (.file data) }

/-- Open a file for writing: what it holds is dropped, or kept to append to it. -/
def openFor (s : Storage) (append : Bool) (path : String) : Except FileFault Storage :=
  match s.locate path with
  | .error f => .error f
  | .ok p =>
    if s.isDirectory p || namesDirectory path then .error (.directory path)
    else if !s.isDirectory p.dropLast then .error (s.absence path p)
    else .ok (s.putFile p (if append then (s.file? p).getD [] else []))

def append (s : Storage) (path text : String) : Storage :=
  match s.locate path with
  | .error _ => s
  | .ok p => s.putFile p ((s.file? p).getD [] ++ Text.Utf8.encode text.toList)

end Storage

end Runbook
