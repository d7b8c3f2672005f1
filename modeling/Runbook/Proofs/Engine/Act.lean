import Runbook.Engine.Run
import Runbook.Proofs.Fault

namespace Runbook

/-- A console of twenty columns where no names of characters are known. -/
def Screen.Console.narrow : Console := ⟨20, fun _ => false⟩

namespace Engine

variable {σ α β : Type} {s s' : State σ} {f : Fault}

theorem run_bind_ok {a : Act σ α} {x : α} (h : a.run s = (.ok x, s')) (g : α → Act σ β) :
    (a >>= g).run s = (g x).run s' := by
  rw [run_bind, h]

theorem run_bind_error {a : Act σ α} (h : a.run s = (.error f, s')) (g : α → Act σ β) :
    (a >>= g).run s = (.error f, s') := by
  rw [run_bind, h]

theorem run_pure (x : α) (s : State σ) : (pure x : Act σ α).run s = (.ok x, s) := rfl

theorem run_modify_bind (u : State σ → State σ) (g : Unit → Act σ β) (s : State σ) :
    ((modify u : Act σ Unit) >>= g).run s = (g ()).run (u s) := rfl

theorem run_updatePlan_bind (u : Plan → Plan) (g : Unit → Act σ β) (s : State σ) :
    ((updatePlan u : Act σ Unit) >>= g).run s = (g ()).run { s with plan := u s.plan } := rfl

theorem run_display (x : Except Fault String) (s : State σ) :
    (display x).run s = match x with
      | .ok t => (.ok (), { s with screen := s.screen ++ t })
      | .error f => (.error f, s) := by
  cases x <;> rfl

theorem run_ready (name : String) (s : State σ) :
    (ready name).run s = match s.plan.runnable? name with
      | none => (.error (.suiteNotFound name),
          { s with notices := s.notices ++ [.suiteNotFound name] })
      | some suite =>
        if s.active.contains name then (.error (.recursion (s.active ++ [name])), s)
        else (.ok suite, s) := by
  unfold ready
  rw [run_get_bind]
  cases s.plan.runnable? name with
  | none => rfl
  | some suite => by_cases h : s.active.contains name = true <;> simp only [h] <;> rfl

theorem run_report (e : Engine σ) (r : Run) (s : State σ) :
    ∃ notices screen, (e.report r).run s =
      ((Screen.stepResult e.console r).map fun _ => (),
        { s with notices := notices, screen := screen }) := by
  have hd : ∀ notices, ∃ screen,
      (display (Screen.stepResult e.console r)).run { s with notices := notices } =
        ((Screen.stepResult e.console r).map fun _ => (),
          { s with notices := notices, screen := screen }) := by
    intro notices
    rw [run_display]
    cases Screen.stepResult e.console r with
    | ok t => exact ⟨s.screen ++ t, rfl⟩
    | error f => exact ⟨s.screen, rfl⟩
  unfold report
  cases r.error with
  | none => exact ⟨s.notices, hd s.notices⟩
  | some f => exact ⟨s.notices ++ [stepFailed r f], hd _⟩

end Engine

end Runbook
