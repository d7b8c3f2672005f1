namespace Runbook.Http

structure Header where
  name : String
  value : String
deriving DecidableEq, Repr

abbrev Headers := List Header

namespace Headers

def sameName (a b : String) : Bool := a.toList.map Char.toLower == b.toList.map Char.toLower

def has (hs : Headers) (name : String) : Bool := hs.any fun h => sameName h.name name

def get? (hs : Headers) (name : String) : Option String :=
  match hs.filter fun h => sameName h.name name with
  | [] => none
  | found => some (", ".intercalate (found.map (·.value)))

def erase (hs : Headers) (name : String) : Headers := hs.filter fun h => !sameName h.name name

def set : Headers → String → String → Headers
  | [], name, value => [⟨name, value⟩]
  | h :: hs, name, value =>
    if sameName h.name name then ⟨name, value⟩ :: erase hs name else h :: set hs name value

def setDefault (hs : Headers) (name value : String) : Headers :=
  if hs.has name then hs else hs ++ [⟨name, value⟩]

def isAscii (hs : Headers) : Bool :=
  hs.all fun h => (h.name.toList ++ h.value.toList).all fun c => c.toNat < 128

end Headers

end Runbook.Http
