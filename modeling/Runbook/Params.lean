import Runbook.Dict
import Runbook.Check
import Runbook.Value.Text

namespace Runbook

/-- Bodies that are mappings are merged entry by entry; others are replaced whole. -/
inductive Body where
  | absent
  | mapping (entries : Dict Value Value)
  | scalar (value : Value)

namespace Body

def ofValue : Value → Body
  | .null => absent
  | .map entries => mapping (Dict.ofList entries)
  | v => scalar v

def value : Body → Value
  | absent => .null
  | mapping entries => .map entries.entries
  | scalar v => v

def isAbsent : Body → Bool
  | absent => true
  | _ => false

def isMapping : Body → Bool
  | mapping _ => true
  | _ => false

def same : Body → Body → Bool
  | absent, absent => true
  | mapping a, mapping b => Value.same (.map a.entries) (.map b.entries)
  | scalar a, scalar b => a.same b
  | _, _ => false

def copyFrom (dst src : Body) : Body :=
  match dst, src with
  | mapping a, mapping b => mapping (a.combine b)
  | _, _ => src

def addFrom (dst src : Body) : Body :=
  match dst, src with
  | mapping a, mapping b => mapping (a.fill b)
  | absent, _ => src
  | _, _ => dst

end Body

abbrev Slot := Dict String Value

def Slot.value (s : Slot) : Value := .map (s.entries.map fun e => (.str e.1, e.2))

/-- The same entries, where texts are keys among others. -/
def Slot.anyKeys (s : Slot) : Dict Value Value where
  entries := s.entries.map fun e => (.str e.1, e.2)
  distinct := by
    refine List.pairwise_map.2 (s.distinct.imp fun h => ?_)
    simpa [BEq.beq, Value.same] using h

structure Params where
  query : Slot
  form : Slot
  path : Slot
  header : Slot
  body : Body

namespace Params

def empty : Params := ⟨.empty, .empty, .empty, .empty, .absent⟩

instance : Inhabited Params := ⟨empty⟩

def copyFrom (dst src : Params) : Params where
  query := dst.query.combine src.query
  form := dst.form.combine src.form
  path := dst.path.combine src.path
  header := dst.header.combine src.header
  body := dst.body.copyFrom src.body

def addFrom (dst src : Params) : Params where
  query := dst.query.fill src.query
  form := dst.form.fill src.form
  path := dst.path.fill src.path
  header := dst.header.fill src.header
  body := dst.body.addFrom src.body

def same (a b : Params) : Bool :=
  Value.same a.query.value b.query.value && Value.same a.form.value b.form.value &&
    Value.same a.path.value b.path.value && Value.same a.header.value b.header.value &&
    a.body.same b.body

def dslEntry (name : String) : Value → List (String × Value)
  | .null => []
  | .map [] => []
  | v => [(name, v)]

def toDsl (p : Params) : List (String × Value) :=
  dslEntry "queryParams" p.query.value ++ dslEntry "formParams" p.form.value ++
    dslEntry "pathParams" p.path.value ++ dslEntry "headerParams" p.header.value ++
    dslEntry "bodyParams" p.body.value

end Params

namespace Check

/-- How a key that is no text appears in a place. -/
def keyStep (k : Value) : PlaceStep :=
  match k with
  | .str s => .name s
  | .int n => if -Int.pow 2 63 ≤ n ∧ n < Int.pow 2 63 then .number n else .name (k.literal?.getD "")
  | .bool b => .number (if b then 1 else 0)
  | k => .name (k.literal?.getD "")

def entries : List (Value × Value) → Checked Slot → Checked Slot
  | [], d => d
  | (k, v) :: es, d =>
    let key := (text k).within (.name "[key]") |>.within (keyStep k)
    entries es ((fun (d : Slot) k => d.put k v) <$> d <*> key)

def mapping : Value → Checked Slot
  | .map es => entries es (.ok .empty)
  | _ => .fail .mapping

def field? (es : List (Value × Value)) (names : List String) : Option Value :=
  names.findSome? fun n => Value.field? n (.map es)

/-- A field goes by the first of its names. -/
def field {α : Type} (es : List (Value × Value)) (name : String) (otherNames : List String)
    (check : Value → Checked α) (absent : Checked α) : Checked α :=
  match field? es (name :: otherNames) with
  | some v => (check v).within (.name name)
  | none => absent.within (.name name)

def slot : Value → Checked Slot
  | .null => .ok .empty
  | v => mapping v

def params : Value → Checked Params
  | .map es =>
    Params.mk <$> field es "queryParams" ["query_params"] slot (.ok .empty)
      <*> field es "formParams" ["form_params"] slot (.ok .empty)
      <*> field es "pathParams" ["path_params"] slot (.ok .empty)
      <*> field es "headerParams" ["header_params"] slot (.ok .empty)
      <*> field es "bodyParams" ["body"] (.ok ∘ Body.ofValue) (.ok .absent)
  | _ => .fail .record

end Check

end Runbook
