import Runbook.Proofs.Params
import Runbook.Proofs.PlanFile.Step
import Runbook.Run

namespace Runbook

theorem Body.written_eq_self_iff {b : Body} : b.written = b ↔ b ≠ .mapping .empty := by
  cases b with
  | mapping d =>
    have hempty : Body.mapping d = .mapping .empty ↔ d.isEmpty = true := by
      rw [Body.mapping.injEq, Dict.isEmpty, List.isEmpty_iff]
      exact ⟨fun h => congrArg (·.entries) h, fun h => Dict.eq_of_entries h⟩
    rw [written.eq_def, ne_eq, hempty]
    dsimp only
    split
    · rename_i hd
      simp [hd]
    · rename_i hd
      simp [hd]
  | _ => simp [written]

namespace Test

/-- A step that stands for another one: the same but for the method, the suite that holds it, and a
body without entries, for which it has none. -/
structure StandsFor (t u : Test) : Prop where
  name : t.name = u.name
  ref : t.ref = u.ref
  path : t.path = u.path
  slots : ∀ slot ∈ Params.slots, slot t.params = slot u.params
  body : u.params.body ≠ .mapping .empty → t.params.body = u.params.body
  emptyBody : u.params.body = .mapping .empty → t.params.body = .absent
  strict : t.strict = u.strict
  expect : t.expect = u.expect
  auth : t.auth = u.auth

theorem standsFor_reread (t : Test) : t.reread.StandsFor t where
  name := rfl
  ref := rfl
  path := rfl
  slots := by simp [Params.slots, reread]
  body := Body.written_eq_self_iff.2
  emptyBody h := by
    rw [reread, h]
    rfl
  strict := rfl
  expect := rfl
  auth := rfl

theorem reread_eq_iff {t : Test} (hmethod : Text.lower t.method = t.method) :
    t.reread = { t with suite := "" } ↔ t.params.body ≠ .mapping .empty := by
  rw [← Body.written_eq_self_iff, reread, hmethod]
  constructor
  · intro h
    exact congrArg (·.params.body) h
  · intro h
    rw [h]

end Test

theorem Run.ofTest_withSuite (t : Test) (name : String) (s : Suite) (parent : Option Test) :
    ofTest { t with suite := name } s parent = ofTest t s parent := by
  cases parent <;> rfl

namespace PlanFile

/-- A step that a check has made is read again where it is written, in all that it says, except that a
body without entries is not written and comes back as no body. If there is no such body, and its
method was not given as bytes, the step is the same up to the suite that holds it. It runs as before,
and so do the steps that it refers to. -/
theorem reread_step {v : Value} {t : Test} (h : Check.test v = .ok t) :
    ∃ t', Check.test (dslMap t.toDsl) = .ok t' ∧ t'.StandsFor t ∧
      ((∀ data, v.field? "method" ≠ some (.bytes data)) →
        t'.method = t.method ∧
        (t' = { t with suite := "" } ↔ t.params.body ≠ .mapping .empty) ∧
        (t.params.body ≠ .mapping .empty →
          (∀ s parent, Run.ofTest t' s parent = Run.ofTest t s parent) ∧
          ∀ u s strict, Run.ofTest u s (some { t' with strict := strict }) =
            Run.ofTest u s (some { t with strict := strict }))) := by
  have hread : t.ReadFrom v := ⟨t, h, rfl⟩
  obtain ⟨w, hbody⟩ := hread.body
  refine ⟨t.reread, test_toDsl t hbody, t.standsFor_reread, fun hgiven => ?_⟩
  have hmethod := hread.lower_method hgiven
  have hsame := Test.reread_eq_iff hmethod
  refine ⟨hmethod, hsame, fun hbody => ?_⟩
  rw [hsame.2 hbody]
  exact ⟨Run.ofTest_withSuite t "", fun u s strict => rfl⟩

def flagStep : Test :=
  { Test.empty with
    name := "a"
    method := "post"
    params := { Params.empty with body := .scalar (.bool false) } }

def flagSource : Value :=
  .map [(.str "name", .str "a"), (.str "method", .str "POST"), (.str "bodyParams", .bool false)]

theorem test_flagSource : Check.test flagSource = .ok flagStep := by
  have hlower : Text.lower "POST" = "post" := by decide +kernel
  simp [flagSource, flagStep, Check.test, Check.field, Check.field?, Value.field?_cons,
    Value.field?_nil, Check.text, Check.lowerText, hlower, Test.declaredParams, Test.inlineSlots,
    Check.params, Test.empty, Params.empty, Auth.none, Body.ofValue]

/-- A body that is there comes back, though it says no. -/
theorem reread_step_flag :
    Check.test flagSource = .ok flagStep ∧
      (∀ data, flagSource.field? "method" ≠ some (.bytes data)) ∧
      ∃ t', Check.test (dslMap flagStep.toDsl) = .ok t' ∧ t'.StandsFor flagStep ∧
        t' = flagStep ∧ ∀ s parent, Run.ofTest t' s parent = Run.ofTest flagStep s parent := by
  obtain ⟨t', hread, hstands, hgiven⟩ := reread_step test_flagSource
  have hmethod : ∀ data, flagSource.field? "method" ≠ some (.bytes data) := by
    intro data
    simp [flagSource, Value.field?_cons]
  have hbody : flagStep.params.body ≠ .mapping .empty := nofun
  obtain ⟨-, hsame, hrun⟩ := hgiven hmethod
  exact ⟨test_flagSource, hmethod, t', hread, hstands, hsame.2 hbody, (hrun hbody).1⟩

def hollowStep : Test :=
  { Test.empty with name := "a", params := { Params.empty with body := .mapping .empty } }

theorem test_hollow :
    Check.test (.map [(.str "name", .str "a"), (.str "bodyParams", .map [])]) = .ok hollowStep := by
  simp [hollowStep, Check.test, Check.field, Check.field?, Value.field?_cons, Value.field?_nil,
    Check.text, Test.declaredParams, Test.inlineSlots, Check.params, Test.empty, Params.empty,
    Auth.none, Body.ofValue, Dict.ofList, Dict.putAll]

/-- A step may come back with no body where it had one without entries. -/
theorem reread_step_drops_body :
    ¬ ∀ (v : Value) (t : Test), Check.test v = .ok t →
      ∃ t', Check.test (dslMap t.toDsl) = .ok t' ∧ { t' with suite := t.suite } = t := by
  intro h
  obtain ⟨t', hread, hsame⟩ := h _ _ test_hollow
  have hreread := test_toDsl hollowStep (v := .map []) rfl
  rw [hread] at hreread
  obtain rfl := Checked.ok.inj hreread
  have hbody : Body.absent = .mapping .empty := congrArg (·.params.body) hsame
  cases hbody

end PlanFile

end Runbook
