import Runbook.Number.Layout

namespace Runbook

inductive Json where
  | null
  | bool (b : Bool)
  | int (n : Int)
  | float (x : Binary64)
  | str (s : String)
  | list (items : List Json)
  | map (entries : List (String × Json))

namespace Json

instance : Inhabited Json := ⟨null⟩

/-- Why a text is no document. -/
inductive ReadFault where
  | malformed
  /-- A whole number has too many digits. -/
  | longNumber
deriving DecidableEq, Repr

/-- One piece of the text of a document. -/
inductive Token where
  | openList
  | closeList
  | openMap
  | closeMap
  | comma
  | colon
  | text (s : String)
  /-- A number or a word such as `null`. -/
  | atom (j : Json)
  /-- The rest of a text that goes on wrongly. -/
  | bad (fault : ReadFault)

end Json

end Runbook
