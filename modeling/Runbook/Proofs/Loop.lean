import Runbook.Proofs.Plan
import Mathlib.Data.List.Chain
import Mathlib.Logic.Relation

namespace Runbook.Plan

variable {p q : Plan}

def Refers (p : Plan) (a b : String) : Prop := ∃ t ∈ (p.suite a).tests, t.ref ≠ "" ∧ t.ref = b

/-- From a suite the steps lead to one that they lead back to. -/
def LeadsToCycle (p : Plan) (name : String) : Prop :=
  ∃ n, Relation.ReflTransGen p.Refers name n ∧ Relation.TransGen p.Refers n n

theorem not_leadsToCycle (h : ∀ suite ∈ p.suites.values, ∀ t ∈ suite.tests, t.ref = "")
    (name : String) : ¬ p.LeadsToCycle name := by
  rintro ⟨n, -, hn⟩
  obtain ⟨m, ⟨t, ht, href, -⟩, -⟩ := Relation.TransGen.head'_iff.1 hn
  rw [suite] at ht
  cases hs : p.suites.get? n with
  | none =>
    rw [hs] at ht
    cases ht
  | some suite =>
    rw [hs] at ht
    exact href (h suite (Registry.mem_values_of_get? hs) t ht)

/-- A chain of suites with steps that goes on from `stack`, each of which names the next, until one
comes that has been there before. -/
structure Loop (p : Plan) (stack chain : List String) : Prop where
  starts : stack <+: chain
  runnable : ∀ n ∈ chain, (p.runnable? n).isSome
  refers : chain.IsChain p.Refers
  closes : ∃ front n, chain = front ++ [n] ∧ n ∈ front

theorem Loop.of_start {stack stack' chain : List String} (h : p.Loop stack' chain)
    (hs : stack <+: stack') : p.Loop stack chain where
  starts := hs.trans h.starts
  runnable := h.runnable
  refers := h.refers
  closes := h.closes

theorem transGen_of_isChain {n : String} {between : List String}
    (h : (n :: (between ++ [n])).IsChain p.Refers) : Relation.TransGen p.Refers n n := by
  cases between with
  | nil => exact .single (List.isChain_pair.1 h)
  | cons m between =>
    rw [List.cons_append, List.isChain_cons_cons] at h
    have hback := List.relationReflTransGen_of_exists_isChain_cons (between ++ [n]) h.2
      (by simp : _ = n)
    exact .head' h.1 hback

theorem Loop.leadsToCycle {name : String} {chain : List String} (h : p.Loop [name] chain) :
    p.LeadsToCycle name := by
  obtain ⟨front, n, rfl, hn⟩ := h.closes
  obtain ⟨before, between, rfl⟩ := List.append_of_mem hn
  have hstart := h.starts
  have hrefers := h.refers
  rw [List.append_assoc, List.cons_append] at hstart hrefers
  obtain ⟨hway, hround⟩ := List.isChain_split.1 hrefers
  refine ⟨n, ?_, transGen_of_isChain hround⟩
  cases before with
  | nil =>
    obtain ⟨rfl, -⟩ := List.cons_prefix_cons.1 hstart
    exact .refl
  | cons m before =>
    obtain ⟨rfl, -⟩ := List.cons_prefix_cons.1 hstart
    exact List.relationReflTransGen_of_exists_isChain_cons (before ++ [n]) hway (by simp)

end Runbook.Plan
