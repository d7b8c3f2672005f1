import Runbook.PlanFile.Writing
import Runbook.Proofs.Dict
import Runbook.Proofs.Test
import Runbook.Proofs.Text.Case

namespace Runbook

def Body.written : Body → Body
  | .mapping d => if d.isEmpty then .absent else .mapping d
  | b => b

def Test.reread (t : Test) : Test :=
  { t with
    method := Text.lower t.method
    params := { t.params with body := t.params.body.written }
    suite := "" }

/-- A check has made the step, whatever suite holds it since. -/
def Test.ReadFrom (t : Test) (v : Value) : Prop :=
  ∃ t₀, Check.test v = .ok t₀ ∧ t = { t₀ with suite := t.suite }

theorem Test.ReadFrom.body {t : Test} {v : Value} (h : t.ReadFrom v) :
    ∃ w, t.params.body = Body.ofValue w := by
  obtain ⟨t₀, ht, hsame⟩ := h
  obtain ⟨es, -, -, hparams⟩ := Check.test_eq_ok ht
  obtain ⟨w, hw, -⟩ := Check.params_eq_ok hparams
  rw [hsame]
  exact ⟨w, hw⟩

theorem Test.ReadFrom.lower_method {t : Test} {v : Value} (h : t.ReadFrom v)
    (hv : ∀ data, v.field? "method" ≠ some (.bytes data)) : Text.lower t.method = t.method := by
  obtain ⟨t₀, ht, hsame⟩ := h
  obtain ⟨es, rfl, hmethod, -⟩ := Check.test_eq_ok ht
  have hfield : Check.field? es ["method"] = (Value.map es).field? "method" := by
    rw [Check.field?, List.findSome?_cons]
    cases (Value.map es).field? "method" <;> rfl
  rw [Check.field, hfield] at hmethod
  rw [hsame]
  cases hgiven : (Value.map es).field? "method" with
  | none =>
    rw [hgiven] at hmethod
    have hnone : "" = t₀.method := Checked.ok.inj hmethod
    rw [← hnone]
    rfl
  | some w =>
    rw [hgiven] at hmethod
    have hchecked := Checked.within_eq_ok hmethod
    cases w with
    | str s =>
      have hlower : Text.lower s = t₀.method := Checked.ok.inj hchecked
      rw [← hlower]
      exact Text.lower_lower s
    | bytes data => exact (hv data hgiven).elim
    | _ => cases hchecked

theorem Body.dslEntry_written (name : String) (b : Body) :
    Params.dslEntry name b.written.value = Params.dslEntry name b.value := by
  cases b with
  | mapping d =>
    rw [written.eq_def]
    dsimp only
    split
    · rename_i hd
      rw [value.eq_def, value.eq_def]
      dsimp only
      rw [List.isEmpty_iff.1 hd]
      rfl
    · rfl
  | _ => rfl

/-- A step and the one that is read for it are written alike up to the method. -/
theorem Test.toDsl_reread (t : Test) :
    t.reread.toDsl = { t with method := Text.lower t.method }.toDsl := by
  have hparams : t.reread.params.toDsl = t.params.toDsl := by
    rw [Params.toDsl, Params.toDsl]
    exact congrArg _ (Body.dslEntry_written _ _)
  rw [Test.toDsl, Test.toDsl, hparams]
  rfl

namespace PlanFile

open Dict (find?)

theorem field?_dslMap (k : String) (es : List (String × Value)) :
    Value.field? k (dslMap es) = find? k es := by
  induction es with
  | nil => rfl
  | cons e es ih =>
    rw [dslMap, List.map_cons, Value.field?_cons, find?]
    cases e.1 == k with
    | true => rfl
    | false => exact ih

theorem find?_append (k : String) (es fs : List (String × Value)) :
    find? k (es ++ fs) = (find? k es).or (find? k fs) := by
  induction es with
  | nil => rfl
  | cons e es ih =>
    rw [List.cons_append, find?, find?]
    split
    · rfl
    · exact ih

theorem find?_dslText (k name s : String) :
    find? k (Test.dslText name s) =
      if name = k ∧ s.isEmpty = false then some (.str s) else none := by
  unfold Test.dslText
  by_cases hs : s.isEmpty = true <;> by_cases hname : name = k <;> simp [find?, hs, hname]

theorem find?_dslStrict (k : String) (strict : Bool) :
    find? k (Test.dslStrict strict) =
      if "strict" = k ∧ strict = true then some (.bool true) else none := by
  unfold Test.dslStrict
  by_cases hs : strict = true <;> by_cases hname : "strict" = k <;> simp [find?, hs, hname]

theorem find?_dslExpect (k : String) (expect : Slot) :
    find? k (Test.dslExpect expect) =
      if "expect" = k ∧ expect.isEmpty = false then some expect.value else none := by
  unfold Test.dslExpect
  by_cases hs : expect.isEmpty = true <;> by_cases hname : "expect" = k <;> simp [find?, hs, hname]

def said : Value → Option Value
  | .null => none
  | .map [] => none
  | v => some v

theorem dslEntry_eq (name : String) (v : Value) :
    Params.dslEntry name v = ((said v).map fun v => (name, v)).toList := by
  unfold Params.dslEntry
  split
  · rfl
  · rfl
  · rw [said]
    · rfl
    · assumption
    · assumption

theorem find?_dslEntry (k name : String) (v : Value) :
    find? k (Params.dslEntry name v) = if name = k then said v else none := by
  unfold Params.dslEntry said
  split <;> by_cases hname : name = k <;> simp [find?, hname]

theorem find?_paramsDsl (k : String) (p : Params) :
    find? k p.toDsl =
      (((((if "queryParams" = k then said p.query.value else none).or
        (if "formParams" = k then said p.form.value else none)).or
        (if "pathParams" = k then said p.path.value else none)).or
        (if "headerParams" = k then said p.header.value else none)).or
        (if "bodyParams" = k then said p.body.value else none)) := by
  simp only [Params.toDsl, find?_append, find?_dslEntry]

theorem find?_toDsl (k : String) (t : Test) :
    find? k t.toDsl =
      if "name" = k then some (.str t.name)
      else
        (((((((((if "ref" = k ∧ t.ref.isEmpty = false then some (.str t.ref) else none).or
          (if "method" = k ∧ t.method.isEmpty = false then some (.str t.method) else none)).or
          (if "path" = k ∧ t.path.isEmpty = false then some (.str t.path) else none)).or
          (find? k t.params.toDsl)).or
          (if "strict" = k ∧ t.strict = true then some (.bool true) else none)).or
          (if "expect" = k ∧ t.expect.isEmpty = false then some t.expect.value else none)).or
          (if "username" = k ∧ t.auth.username.isEmpty = false then some (.str t.auth.username)
            else none)).or
          (if "password" = k ∧ t.auth.password.isEmpty = false then some (.str t.auth.password)
            else none)).or
          (if "apiToken" = k ∧ t.auth.token.isEmpty = false then some (.str t.auth.token)
            else none)) := by
  rw [Test.toDsl, find?]
  simp only [find?_append, find?_dslText, find?_dslStrict, find?_dslExpect, beq_iff_eq]

theorem field_eq_ok {α : Type} {es : List (String × Value)} {name : String} {others : List String}
    {check : Value → Checked α} {absent a : α}
    (h : (find? name es).elim (.ok absent) check = .ok a)
    (hothers : ∀ n ∈ others, find? n es = none) :
    Check.field (es.map fun e => (.str e.1, e.2)) name others check (.ok absent) = .ok a := by
  have hfield (n : String) : Value.field? n (.map (es.map fun e => (.str e.1, e.2))) = find? n es :=
    field?_dslMap n es
  have hrest : Check.field? (es.map fun e => (.str e.1, e.2)) others = none := by
    rw [Check.field?, List.findSome?_eq_none_iff]
    intro n hn
    rw [hfield, hothers n hn]
  rw [Check.field, Check.field?, List.findSome?_cons, hfield]
  rw [Check.field?] at hrest
  cases hfound : find? name es with
  | none =>
    rw [hfound] at h
    dsimp only
    rw [hrest]
    exact congrArg (Checked.within _) h
  | some v =>
    rw [hfound] at h
    exact congrArg (Checked.within _) h

theorem elim_of_isEmpty {α : Type} {empty : Bool} {v : Value} {check : Value → Checked α}
    {absent a : α} (hempty : empty = true → absent = a) (hcheck : check v = .ok a) :
    (if empty = false then some v else none).elim (.ok absent) check = .ok a := by
  cases empty with
  | true => exact congrArg Checked.ok (hempty rfl)
  | false => exact hcheck

theorem said_text (s : String) :
    (if s.isEmpty = false then some (Value.str s) else none).elim (.ok "") Check.text = .ok s :=
  elim_of_isEmpty (fun hs => (String.isEmpty_iff.1 hs).symm) rfl

theorem said_lowerText (s : String) :
    (if s.isEmpty = false then some (Value.str s) else none).elim (.ok "") Check.lowerText =
      .ok (Text.lower s) := by
  refine elim_of_isEmpty (fun hs => ?_) rfl
  rw [String.isEmpty_iff.1 hs]
  rfl

theorem said_flag (b : Bool) :
    (if b = true then some (Value.bool true) else none).elim (.ok false) Check.flag = .ok b := by
  cases b <;> rfl

theorem isEmpty_entries {s : Slot} (h : s.isEmpty = true) : s = .empty := by
  obtain ⟨es, hes⟩ := s
  obtain rfl : es = [] := List.isEmpty_iff.1 h
  rfl

theorem said_expect (s : Slot) :
    (if s.isEmpty = false then some s.value else none).elim (.ok .empty) Check.mapping = .ok s :=
  elim_of_isEmpty (fun hs => (isEmpty_entries hs).symm) (Check.mapping_value s)

theorem said_slot (s : Slot) : (said s.value).elim (.ok .empty) Check.slot = .ok s := by
  by_cases hs : s.isEmpty = true
  · rw [isEmpty_entries hs]
    rfl
  · have hvalue : said s.value = some s.value := by
      obtain ⟨_ | ⟨e, es⟩, hes⟩ := s
      · exact (hs rfl).elim
      · rfl
    rw [hvalue]
    exact Check.mapping_value s

theorem said_mapping (d : Dict Value Value) :
    (said (.map d.entries)).elim (.ok .absent) (Checked.ok ∘ Body.ofValue) =
      .ok (Body.mapping d).written := by
  by_cases hd : d.isEmpty = true
  · have hnone : said (.map d.entries) = none := by rw [List.isEmpty_iff.1 hd]; rfl
    rw [hnone, Body.written.eq_def]
    dsimp only
    rw [if_pos hd]
    rfl
  · have hsome : said (.map d.entries) = some (.map d.entries) := by
      obtain ⟨_ | ⟨e, es⟩, hes⟩ := d
      · exact (hd rfl).elim
      · rfl
    have hself : Dict.ofList d.entries = d := Dict.ofList_entries d
    rw [hsome, Body.written.eq_def]
    dsimp only
    rw [if_neg hd, Option.elim_some, Function.comp_apply, Body.ofValue.eq_def]
    dsimp only
    rw [hself]

/-- What a value comes to as a body is read again where it is written. -/
theorem said_body (v : Value) :
    (said (Body.ofValue v).value).elim (.ok .absent) (Checked.ok ∘ Body.ofValue) =
      .ok (Body.ofValue v).written := by
  cases v with
  | map es => exact said_mapping (Dict.ofList es)
  | _ => rfl

theorem declaredParams_toDsl (t : Test) :
    Test.declaredParams (t.toDsl.map fun e => (.str e.1, e.2)) =
      .map (t.params.toDsl.map fun e => (.str e.1, e.2)) := by
  have hfield (n : String) : Check.field? (t.toDsl.map fun e => (.str e.1, e.2)) [n] =
      find? n t.toDsl := by
    have hdsl : Value.field? n (.map (t.toDsl.map fun e => (.str e.1, e.2))) = find? n t.toDsl :=
      field?_dslMap n t.toDsl
    rw [Check.field?, List.findSome?_cons, hdsl]
    cases find? n t.toDsl <;> rfl
  have hentry (n : String) (o : Option Value) :
      (o.map fun v => (n, v)).toList.map (fun e => (Value.str e.1, e.2)) =
        (o.map fun v => (Value.str n, v)).toList := by
    cases o <;> rfl
  have hparams : find? "params" t.toDsl = none := by simp [find?_toDsl, find?_paramsDsl]
  rw [Test.declaredParams, hfield, hparams]
  simp only [hfield, Test.inlineSlots, List.filterMap_eq_flatMap_toList, List.flatMap_cons,
    Params.toDsl, dslEntry_eq, List.map_append, hentry]
  simp [find?_toDsl, find?_paramsDsl]

theorem params_toDsl (p : Params) {v : Value} (hbody : p.body = Body.ofValue v) :
    Check.params (.map (p.toDsl.map fun e => (.str e.1, e.2))) =
      .ok { p with body := p.body.written } := by
  have hquery : Check.field (p.toDsl.map fun e => (.str e.1, e.2)) "queryParams" ["query_params"]
      Check.slot (.ok .empty) = .ok p.query :=
    field_eq_ok (by simpa [find?_paramsDsl] using said_slot p.query) (by simp [find?_paramsDsl])
  have hform : Check.field (p.toDsl.map fun e => (.str e.1, e.2)) "formParams" ["form_params"]
      Check.slot (.ok .empty) = .ok p.form :=
    field_eq_ok (by simpa [find?_paramsDsl] using said_slot p.form) (by simp [find?_paramsDsl])
  have hpath : Check.field (p.toDsl.map fun e => (.str e.1, e.2)) "pathParams" ["path_params"]
      Check.slot (.ok .empty) = .ok p.path :=
    field_eq_ok (by simpa [find?_paramsDsl] using said_slot p.path) (by simp [find?_paramsDsl])
  have hheader : Check.field (p.toDsl.map fun e => (.str e.1, e.2)) "headerParams"
      ["header_params"] Check.slot (.ok .empty) = .ok p.header :=
    field_eq_ok (by simpa [find?_paramsDsl] using said_slot p.header) (by simp [find?_paramsDsl])
  have hread : Check.field (p.toDsl.map fun e => (.str e.1, e.2)) "bodyParams" ["body"]
      (Checked.ok ∘ Body.ofValue) (.ok .absent) = .ok p.body.written := by
    refine field_eq_ok ?_ (by simp [find?_paramsDsl])
    rw [hbody]
    have hsaid := said_body v
    simpa [find?_paramsDsl, hbody] using hsaid
  rw [Check.params, hquery, hform, hpath, hheader, hread]
  rfl

theorem test_toDsl (t : Test) {v : Value} (hbody : t.params.body = Body.ofValue v) :
    Check.test (dslMap t.toDsl) = .ok t.reread := by
  have hname : Check.field (t.toDsl.map fun e => (.str e.1, e.2)) "name" [] Check.text (.ok "") =
      .ok t.name :=
    field_eq_ok (by simp [find?_toDsl, Check.text]) (by simp)
  have htext (n s : String)
      (h : find? n t.toDsl = if s.isEmpty = false then some (.str s) else none) :
      Check.field (t.toDsl.map fun e => (.str e.1, e.2)) n [] Check.text (.ok "") = .ok s :=
    field_eq_ok (h ▸ said_text s) (by simp)
  have href := htext "ref" t.ref (by simp [find?_toDsl, find?_paramsDsl])
  have hpath := htext "path" t.path (by simp [find?_toDsl, find?_paramsDsl])
  have husername := htext "username" t.auth.username (by simp [find?_toDsl, find?_paramsDsl])
  have hpassword := htext "password" t.auth.password (by simp [find?_toDsl, find?_paramsDsl])
  have hsuite := htext "suite_name" "" (by simp [find?_toDsl, find?_paramsDsl])
  have hmethod : Check.field (t.toDsl.map fun e => (.str e.1, e.2)) "method" [] Check.lowerText
      (.ok "") = .ok (Text.lower t.method) :=
    field_eq_ok (by simpa [find?_toDsl, find?_paramsDsl] using said_lowerText t.method) (by simp)
  have hstrict : Check.field (t.toDsl.map fun e => (.str e.1, e.2)) "strict" [] Check.flag
      (.ok false) = .ok t.strict :=
    field_eq_ok (by simpa [find?_toDsl, find?_paramsDsl] using said_flag t.strict) (by simp)
  have hexpect : Check.field (t.toDsl.map fun e => (.str e.1, e.2)) "expect" [] Check.mapping
      (.ok .empty) = .ok t.expect :=
    field_eq_ok (by simpa [find?_toDsl, find?_paramsDsl] using said_expect t.expect) (by simp)
  have htoken : Check.field (t.toDsl.map fun e => (.str e.1, e.2)) "apiToken" ["api_token"]
      Check.text (.ok "") = .ok t.auth.token :=
    field_eq_ok (by simpa [find?_toDsl, find?_paramsDsl] using said_text t.auth.token)
      (by simp [find?_toDsl, find?_paramsDsl])
  rw [dslMap, Check.test, hname, href, hmethod, hpath, declaredParams_toDsl,
    params_toDsl t.params hbody, hstrict, hexpect, husername, hpassword, htoken, hsuite]
  rfl

theorem checkTests_toDsl {tests : List Test} (h : ∀ t ∈ tests, ∃ v, t.ReadFrom v) :
    checkTests (tests.map fun t => dslMap t.toDsl) = .ok (tests.map Test.reread) := by
  induction tests with
  | nil => rfl
  | cons t ts ih =>
    obtain ⟨⟨v, ht⟩, hts⟩ := List.forall_mem_cons.1 h
    obtain ⟨w, hbody⟩ := ht.body
    rw [List.map_cons, checkTests, test_toDsl t hbody]
    dsimp only
    rw [ih hts]
    rfl

/-- What is read is written as what was there exactly if the method was in lower case. -/
theorem toDsl_reread_iff (t : Test) :
    t.reread.toDsl = t.toDsl ↔ Text.lower t.method = t.method := by
  rw [Test.toDsl_reread]
  constructor
  · intro h
    by_cases hempty : t.method = ""
    · rw [hempty]
      rfl
    · have hmethod := congrArg (find? "method") h
      simp only [find?_toDsl, find?_paramsDsl] at hmethod
      by_cases hlower : Text.lower t.method = ""
      · simp [hempty, hlower] at hmethod
      · simpa [hempty, hlower] using hmethod
  · intro h
    rw [h]

end PlanFile

end Runbook
