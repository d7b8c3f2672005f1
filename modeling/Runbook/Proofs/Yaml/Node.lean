import Runbook.Yaml.Node

namespace Runbook.Yaml

namespace Node

mutual

def decEq : (m n : Node) → Decidable (m = n)
  | scalar t a, scalar t' b => decidable_of_iff (t = t' ∧ a = b) (by simp)
  | sequence t ms, sequence t' ns =>
    match decEqItems ms ns with
    | isTrue h => decidable_of_iff (t = t') (by simp [h])
    | isFalse h => isFalse (by simp [h])
  | mapping t ds, mapping t' es =>
    match decEqEntries ds es with
    | isTrue h => decidable_of_iff (t = t') (by simp [h])
    | isFalse h => isFalse (by simp [h])
  | around a up, around a' up' => decidable_of_iff (a = a' ∧ up = up') (by simp)
  | scalar .., sequence .. | scalar .., mapping .. | scalar .., around .. => isFalse nofun
  | sequence .., scalar .. | sequence .., mapping .. | sequence .., around .. => isFalse nofun
  | mapping .., scalar .. | mapping .., sequence .. | mapping .., around .. => isFalse nofun
  | around .., scalar .. | around .., sequence .. | around .., mapping .. => isFalse nofun

def decEqItems : (ms ns : List Node) → Decidable (ms = ns)
  | [], [] => isTrue rfl
  | m :: ms, n :: ns =>
    match decEq m n, decEqItems ms ns with
    | isTrue h, isTrue hs => isTrue (by rw [h, hs])
    | isFalse h, _ => isFalse (by simp [h])
    | _, isFalse hs => isFalse (by simp [hs])
  | [], _ :: _ | _ :: _, [] => isFalse nofun

def decEqEntries : (ds es : List (Node × Node)) → Decidable (ds = es)
  | [], [] => isTrue rfl
  | (k, v) :: ds, (k', v') :: es =>
    match decEq k k', decEq v v', decEqEntries ds es with
    | isTrue hk, isTrue hv, isTrue hs => isTrue (by rw [hk, hv, hs])
    | isFalse hk, _, _ => isFalse (by simp [hk])
    | _, isFalse hv, _ => isFalse (by simp [hv])
    | _, _, isFalse hs => isFalse (by simp [hs])
  | [], _ :: _ | _ :: _, [] => isFalse nofun

end

instance : DecidableEq Node := decEq

instance (cs : List Char) (n : Node) : Decidable (ofText cs = .ok (some n)) :=
  match h : ofText cs with
  | .ok (some m) => decidable_of_iff (m = n) (by simp)
  | .ok none | .error _ => isFalse nofun

end Node

end Runbook.Yaml
