import Runbook.Run

namespace Runbook

structure History where
  runs : List Run

namespace History

def empty : History := ⟨[]⟩

def append (h : History) (r : Run) : History := ⟨h.runs ++ [r]⟩

def finishLast (h : History) (r : Run) : History := ⟨h.runs.dropLast ++ [r]⟩

def get? (h : History) (name : String) : Option Run :=
  h.runs.reverse.find? (·.name == name)

def size (h : History) : Nat := h.runs.length

end History

end Runbook
