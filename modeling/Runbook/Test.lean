import Runbook.Auth
import Runbook.Params
import Runbook.Text.Case

namespace Runbook

structure Test where
  name : String
  ref : String
  method : String
  path : String
  params : Params
  strict : Bool
  expect : Slot
  auth : Auth
  /-- The suite that holds the step. -/
  suite : String

namespace Test

def empty : Test := ⟨"", "", "", "", .empty, false, .empty, .none, ""⟩

instance : Inhabited Test := ⟨empty⟩

def dslText (name s : String) : List (String × Value) :=
  if s.isEmpty then [] else [(name, .str s)]

def dslStrict (strict : Bool) : List (String × Value) :=
  if strict then [("strict", .bool true)] else []

def dslExpect (expect : Slot) : List (String × Value) :=
  if expect.isEmpty then [] else [("expect", expect.value)]

/-- The step as a plan file has it. Only what is declared is written, and the name. -/
def toDsl (t : Test) : List (String × Value) :=
  ("name", .str t.name) :: (dslText "ref" t.ref ++ dslText "method" t.method ++
    dslText "path" t.path ++ t.params.toDsl ++ dslStrict t.strict ++ dslExpect t.expect ++
    dslText "username" t.auth.username ++ dslText "password" t.auth.password ++
    dslText "apiToken" t.auth.token)

/-- The names under which a step may declare its arguments without a `params` of their own. -/
def inlineSlots : List String :=
  ["queryParams", "formParams", "pathParams", "headerParams", "bodyParams"]

def declaredParams (es : List (Value × Value)) : Value :=
  match Check.field? es ["params"] with
  | some v => v
  | none =>
    .map (inlineSlots.filterMap fun n => (Check.field? es [n]).map fun v => (.str n, v))

end Test

namespace Check

def lowerText : Value → Checked String
  | .str s => .ok (Text.lower s)
  | v => text v

def test : Value → Checked Test
  | .map es =>
    (fun name ref method path params strict expect username password token suite =>
        ⟨name, ref, method, path, params, strict, expect, ⟨username, password, token⟩, suite⟩)
      <$> field es "name" [] text (.ok "")
      <*> field es "ref" [] text (.ok "")
      <*> field es "method" [] lowerText (.ok "")
      <*> field es "path" [] text (.ok "")
      <*> (params (Test.declaredParams es)).within (.name "params")
      <*> field es "strict" [] flag (.ok false)
      <*> field es "expect" [] mapping (.ok .empty)
      <*> field es "username" [] text (.ok "")
      <*> field es "password" [] text (.ok "")
      <*> field es "apiToken" ["api_token"] text (.ok "")
      <*> field es "suite_name" [] text (.ok "")
  | _ => .fail .record

end Check

end Runbook
