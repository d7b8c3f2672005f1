import Runbook.Engine.Run
import Runbook.Proofs.ReferenceFault
import Runbook.Proofs.Screen.Report

namespace Runbook

/-- A fault that the data of a step can cause. -/
def Fault.OfData : Fault → Prop
  | .unresolved _ | .data _ | .markup => True
  | _ => False

theorem Fault.OfReference.ofData {P : Prop} {f : Fault} (h : f.OfReference P) : f.OfData := by
  unfold OfReference at h
  split at h
  · trivial
  · trivial
  · exact h.elim

def Runner.Raises {σ : Type} (r : Runner σ) (f : Fault) : Prop :=
  ∃ run suite s, (r.run run suite s).1.1 = .error f

theorem Reference.ofData_resolveRun {h : History} {r r' : Run} {f : Fault}
    (hr : resolveRun h r = (r', some f)) : f.OfData := (resolveRun_error hr).ofData

namespace Screen

open Markup

theorem Markup.IsUnshown.ofData {f : Fault} (h : IsUnshown f) : f.OfData := by
  obtain rfl | rfl := h <;> trivial

theorem ofData_print {k : Console} {markup : List Char} {f : Fault}
    (h : print k markup = .error f) : f.OfData := (isUnshown_of_print h).ofData

theorem ofData_printRule {k : Console} {markup : List Char} {f : Fault}
    (h : printRule k markup = .error f) : f.OfData :=
  (isUnshown_of_render (map_eq_error h)).ofData

theorem ofData_suiteStart {k : Console} {name : String} {parent : Option String} {f : Fault}
    (h : suiteStart k name parent = .error f) : f.OfData :=
  ofData_printRule (map_eq_error h)

theorem ofData_stepResult {k : Console} {r : Run} {f : Fault}
    (h : stepResult k r = .error f) : f.OfData := by
  unfold stepResult at h
  split at h
  · rename_i hp
    cases h
    unfold pathText at hp
    split at hp
    · cases hp
    · cases hp
      trivial
  · exact ofData_print h

end Screen

end Runbook
