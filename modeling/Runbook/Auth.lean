namespace Runbook

structure Auth where
  username : String
  password : String
  token : String
deriving DecidableEq, Repr

namespace Auth

def none : Auth := ⟨"", "", ""⟩

instance : Inhabited Auth := ⟨none⟩

def orElse (a b : String) : String := if a.isEmpty then b else a

def override (inherited own : Auth) : Auth where
  username := orElse own.username inherited.username
  password := orElse own.password inherited.password
  token := orElse own.token inherited.token

end Auth

end Runbook
