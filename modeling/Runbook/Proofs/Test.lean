import Runbook.Proofs.Dict
import Runbook.Proofs.Value.Text
import Runbook.Test

namespace Runbook

namespace Value

theorem field?_nil (k : String) : field? k (.map []) = none := rfl

theorem field?_cons (k n : String) (v : Value) (es : List (Value × Value)) :
    field? k (.map ((.str n, v) :: es)) = if n == k then some v else field? k (.map es) := by
  rw [field?, List.find?_cons, str_beq_str]
  cases n == k <;> rfl

end Value

namespace Checked

variable {α β : Type}

@[simp] theorem map_ok (f : α → β) (a : α) : f <$> ok a = ok (f a) := rfl

@[simp] theorem seq_ok (f : α → β) (a : α) : ok f <*> ok a = ok (f a) := rfl

@[simp] theorem within_ok (s : PlaceStep) (a : α) : (ok a).within s = ok a := rfl

theorem map_eq_ok {f : α → β} {x : Checked α} {b : β} (h : f <$> x = ok b) :
    ∃ a, x = ok a ∧ f a = b := by
  cases x with
  | ok a => exact ⟨a, rfl, Checked.ok.inj h⟩
  | mistaken ms => cases h

theorem seq_eq_ok {f : Checked (α → β)} {x : Checked α} {b : β} (h : f <*> x = ok b) :
    ∃ g a, f = ok g ∧ x = ok a ∧ g a = b := by
  cases f with
  | ok g =>
    cases x with
    | ok a => exact ⟨g, a, rfl, rfl, Checked.ok.inj h⟩
    | mistaken ms => cases h
  | mistaken ms => cases x <;> cases h

theorem within_eq_ok {s : PlaceStep} {x : Checked α} {a : α} (h : x.within s = ok a) :
    x = ok a := by
  cases x with
  | ok b => exact congrArg ok (Checked.ok.inj h)
  | mistaken ms => cases h

end Checked

namespace Check

theorem entries_texts (es : List (String × Value)) (d : Slot) :
    entries (es.map fun e => (.str e.1, e.2)) (.ok d) = .ok (d.putAll es) := by
  induction es generalizing d with
  | nil => rfl
  | cons e es ih => exact ih (d.put e.1 e.2)

theorem mapping_value (s : Slot) : mapping s.value = .ok s := by
  have hself : Dict.ofList s.entries = s := Dict.ofList_entries s
  calc mapping s.value = .ok (Dict.empty.putAll s.entries) := entries_texts _ _
    _ = .ok s := congrArg _ hself

theorem test_eq_ok {v : Value} {t : Test} (h : test v = .ok t) :
    ∃ es, v = .map es ∧ field es "method" [] lowerText (.ok "") = .ok t.method ∧
      params (Test.declaredParams es) = .ok t.params := by
  cases v with
  | map es =>
    rw [test] at h
    obtain ⟨f0, suite, h, -, e0⟩ := Checked.seq_eq_ok h
    obtain ⟨f1, token, h, -, e1⟩ := Checked.seq_eq_ok h
    obtain ⟨f2, password, h, -, e2⟩ := Checked.seq_eq_ok h
    obtain ⟨f3, username, h, -, e3⟩ := Checked.seq_eq_ok h
    obtain ⟨f4, expect, h, -, e4⟩ := Checked.seq_eq_ok h
    obtain ⟨f5, strict, h, -, e5⟩ := Checked.seq_eq_ok h
    obtain ⟨f6, declared, h, hparams, e6⟩ := Checked.seq_eq_ok h
    obtain ⟨f7, path, h, -, e7⟩ := Checked.seq_eq_ok h
    obtain ⟨f8, method, h, hmethod, e8⟩ := Checked.seq_eq_ok h
    obtain ⟨f9, ref, h, -, e9⟩ := Checked.seq_eq_ok h
    obtain ⟨name, -, e10⟩ := Checked.map_eq_ok h
    subst e10 e9 e8 e7 e6 e5 e4 e3 e2 e1 e0
    exact ⟨es, rfl, hmethod, Checked.within_eq_ok hparams⟩
  | _ => cases h

theorem field?_eq_some {es : List (Value × Value)} {names : List String} {w : Value}
    (h : field? es names = some w) : ∃ k, (k, w) ∈ es := by
  obtain ⟨n, -, hn⟩ := List.exists_of_findSome?_eq_some h
  obtain ⟨e, he, rfl⟩ := Option.map_eq_some_iff.1 hn
  exact ⟨e.1, List.mem_of_find?_eq_some he⟩

theorem params_eq_ok {v : Value} {p : Params} (h : params v = .ok p) :
    ∃ w, p.body = Body.ofValue w ∧ (w = .null ∨ ∃ es k, v = .map es ∧ (k, w) ∈ es) := by
  cases v with
  | map es =>
    rw [params] at h
    obtain ⟨f0, body, h, hbody, e0⟩ := Checked.seq_eq_ok h
    obtain ⟨f1, header, h, -, e1⟩ := Checked.seq_eq_ok h
    obtain ⟨f2, path, h, -, e2⟩ := Checked.seq_eq_ok h
    obtain ⟨f3, form, h, -, e3⟩ := Checked.seq_eq_ok h
    obtain ⟨query, -, e4⟩ := Checked.map_eq_ok h
    subst e4 e3 e2 e1 e0
    rw [field] at hbody
    split at hbody
    · rename_i w hw
      obtain ⟨k, hk⟩ := field?_eq_some hw
      exact ⟨w, (Checked.ok.inj (Checked.within_eq_ok hbody)).symm, .inr ⟨es, k, rfl, hk⟩⟩
    · exact ⟨.null, (Checked.ok.inj (Checked.within_eq_ok hbody)).symm, .inl rfl⟩
  | _ => cases h

end Check

end Runbook
