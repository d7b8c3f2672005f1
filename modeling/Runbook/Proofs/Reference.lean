import Runbook.Reference

namespace Runbook

namespace Run

variable (t : Test) (s : Suite) (parent : Option Test)

theorem schema_ofTest : (ofTest t s parent).schema = s.schema := by cases parent <;> rfl

theorem path_ofTest : (ofTest t s parent).path = .str t.path := by cases parent <;> rfl

theorem response_ofTest : (ofTest t s parent).response = none := by cases parent <;> rfl

theorem error_ofTest : (ofTest t s parent).error = none := by cases parent <;> rfl

end Run

def Run.answer (r : Run) : Value := r.response.elim .null (·.body)

/-- Two runs that no reference can tell apart. -/
structure Run.Alike (q r : Run) : Prop where
  answer : q.answer = r.answer
  params : q.params = r.params

theorem Run.rel_alike_of_eq {o o' : Option Run} (h : o = o') : Option.Rel Run.Alike o o' := by
  subst h
  cases o with
  | none => exact .none
  | some r => exact .some ⟨rfl, rfl⟩

theorem History.get?_cases (h : History) (name : String) :
    (∃ earlier q later, h.runs = earlier ++ q :: later ∧ q.name = name ∧
      (∀ r ∈ later, r.name ≠ name) ∧ h.get? name = some q) ∨
    ((∀ r ∈ h.runs, r.name ≠ name) ∧ h.get? name = none) := by
  cases hq : h.get? name with
  | none =>
    right
    refine ⟨fun r hr => ?_, rfl⟩
    have hr := List.find?_eq_none.1 hq r (List.mem_reverse.2 hr)
    simpa using hr
  | some q =>
    left
    obtain ⟨hn, later, earlier, hruns, hl⟩ := List.find?_eq_some_iff_append.1 hq
    refine ⟨earlier.reverse, q, later.reverse, ?_, by simpa using hn, fun r hr => ?_, rfl⟩
    · have hr := congrArg List.reverse hruns
      rw [List.reverse_reverse] at hr
      rw [hr]
      simp
    · have hr := hl r (List.mem_reverse.1 hr)
      simpa using hr

namespace Reference

/-- A stage at which at most the arguments and the path of the run have been replaced. -/
def Progress.Keeps (r : Run) (p : Progress) : Prop :=
  ∃ params path, p.1 = { r with params := params, path := path }

theorem Progress.Keeps.next {α : Type} {r : Run} {p : Progress} {part : Run → Except Fault α}
    {put : Run → α → Run} (hp : p.Keeps r)
    (hput : ∀ q a, ∃ params path, put q a = { q with params := params, path := path }) :
    (p.next part put).Keeps r := by
  obtain ⟨q, _ | f⟩ := p
  · obtain ⟨params, path, rfl⟩ := hp
    unfold Progress.next
    dsimp only
    split
    · exact hput _ _
    · exact ⟨params, path, rfl⟩
  · exact hp

theorem resolveRun_keeps (h : History) (r : Run) : (resolveRun h r).Keeps r := by
  have hstart : Progress.Keeps r (r, none) := ⟨r.params, r.path, rfl⟩
  refine Progress.Keeps.next ?_ fun q v => ⟨q.params, v, rfl⟩
  refine Progress.Keeps.next ?_ fun q b => ⟨{ q.params with body := b }, q.path, rfl⟩
  refine Progress.Keeps.next ?_ fun q s => ⟨{ q.params with header := s }, q.path, rfl⟩
  refine Progress.Keeps.next ?_ fun q s => ⟨{ q.params with path := s }, q.path, rfl⟩
  refine Progress.Keeps.next ?_ fun q s => ⟨{ q.params with form := s }, q.path, rfl⟩
  exact hstart.next fun q s => ⟨{ q.params with query := s }, q.path, rfl⟩

theorem resolveRun_eq {h : History} {r r' : Run} {f : Option Fault}
    (hr : resolveRun h r = (r', f)) :
    ∃ params path, r' = { r with params := params, path := path } := by
  have hk := resolveRun_keeps h r
  rwa [hr] at hk

theorem path_next {α : Type} {r : Run} {p : Progress} {part : Run → Except Fault α}
    {put : Run → α → Run} (hp : p.1.path = r.path) (hput : ∀ q a, (put q a).path = q.path) :
    (p.next part put).1.path = r.path := by
  obtain ⟨q, _ | f⟩ := p
  · unfold Progress.next
    dsimp only
    split
    · exact (hput q _).trans hp
    · exact hp
  · exact hp

theorem path_resolveRun {h : History} {r r' : Run} {f : Fault}
    (hr : resolveRun h r = (r', some f)) : r'.path = r.path := by
  have hlast : ∀ {p : Progress} {part : Run → Except Fault Value} {put : Run → Value → Run},
      p.1.path = r.path → p.next part put = (r', some f) → r'.path = r.path := by
    intro p part put hp hn
    obtain ⟨q, _ | g⟩ := p
    · unfold Progress.next at hn
      dsimp only at hn
      split at hn
      · cases hn
      · cases hn
        exact hp
    · cases hn
      exact hp
  refine hlast ?_ hr
  refine path_next ?_ fun _ _ => rfl
  refine path_next ?_ fun _ _ => rfl
  refine path_next ?_ fun _ _ => rfl
  refine path_next ?_ fun _ _ => rfl
  exact path_next rfl fun _ _ => rfl

def stepName? (expr : String) : Option String :=
  ((Text.cutAt '.' expr.toList).map String.ofList).head?

theorem inputs_alike {q r : Run} (h : q.Alike r) (expr : String) (path : List String) :
    inputs expr q path = inputs expr r path := by
  cases path with
  | nil => rfl
  | cons name path => simp only [inputs, h.params]

/-- Of the history an expression reads the answer and the arguments of the run that it names. -/
theorem lookup_alike {h h' : History} {expr name : String} (hn : stepName? expr = some name)
    (hget : Option.Rel Run.Alike (h.get? name) (h'.get? name)) :
    lookup h expr = lookup h' expr := by
  unfold stepName? at hn
  unfold lookup
  cases hparts : (Text.cutAt '.' expr.toList).map String.ofList with
  | nil => rfl
  | cons first rest =>
    rw [hparts] at hn
    cases hn
    cases rest with
    | nil => rfl
    | cons part path =>
      dsimp only
      generalize h.get? name = o at hget ⊢
      generalize h'.get? name = o' at hget ⊢
      cases hget with
      | none => rfl
      | some hqr =>
        have hanswer := hqr.answer
        unfold Run.answer at hanswer
        simp only [hanswer, inputs_alike hqr]

theorem lookup_congr {h h' : History} {expr name : String} (hn : stepName? expr = some name)
    (hget : h.get? name = h'.get? name) : lookup h expr = lookup h' expr :=
  lookup_alike hn (Run.rel_alike_of_eq hget)

theorem lookup_of_get?_eq_none {h : History} {expr name : String}
    (hn : stepName? expr = some name) (hget : h.get? name = none) :
    ∃ cause, lookup h expr = .error (.unresolved cause) := by
  unfold stepName? at hn
  unfold lookup
  cases hparts : (Text.cutAt '.' expr.toList).map String.ofList with
  | nil => exact ⟨_, rfl⟩
  | cons first rest =>
    rw [hparts] at hn
    cases hn
    cases rest with
    | nil => exact ⟨_, rfl⟩
    | cons part path =>
      simp only [hget]
      exact ⟨_, rfl⟩

/-- An expression reads the last of the runs that have the name it gives, as if there were no other,
or it is unresolved because there is none. -/
theorem lookup_cases (h : History) {expr name : String} (hn : stepName? expr = some name) :
    (∃ earlier q later, h.runs = earlier ++ q :: later ∧ q.name = name ∧
      (∀ r ∈ later, r.name ≠ name) ∧ lookup h expr = lookup ⟨[q]⟩ expr) ∨
    ((∀ r ∈ h.runs, r.name ≠ name) ∧ ∃ cause, lookup h expr = .error (.unresolved cause)) := by
  obtain ⟨earlier, q, later, hruns, rfl, hl, hq⟩ | ⟨hnone, hq⟩ := h.get?_cases name
  · left
    have hself : History.get? ⟨[q]⟩ q.name = some q := by simp [History.get?]
    exact ⟨earlier, q, later, hruns, rfl, hl, lookup_congr hn (hq.trans hself.symm)⟩
  · exact .inr ⟨hnone, lookup_of_get?_eq_none hn hq⟩

end Reference

end Runbook
