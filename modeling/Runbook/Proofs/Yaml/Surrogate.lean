import Runbook.Proofs.Text.Case
import Runbook.Yaml.Surrogate
import Mathlib.Data.List.Basic

namespace Runbook.Yaml

variable {n : Nat} {ns ms : List Nat}

theorem codes_cons {c : Char} (h : c ≠ surrogateMark) (cs : List Char) :
    codes (c :: cs) = c.toNat :: codes cs := by
  cases cs with
  | nil => rfl
  | cons d cs => rw [codes, if_neg h]

theorem codes_ofCode (hn : n ≤ 0x10FFFF) (cs : List Char) : codes (ofCode n ++ cs) = n :: codes cs := by
  unfold ofCode
  split
  · rename_i hsurrogate
    simp only [isSurrogate, Bool.and_eq_true, decide_eq_true_eq] at hsurrogate
    have hvalid : (n + 0x800).isValidChar := .inr ⟨by omega, by omega⟩
    have hnat : (Char.ofNat (n + 0x800)).toNat = n + 0x800 := Text.toNat_ofNat hvalid
    have hmark : Char.ofNat (n + 0x800) ≠ surrogateMark := by
      intro h
      rw [h] at hnat
      have hcode : surrogateMark.toNat = 0xFFFF := rfl
      omega
    have hcode : markedCode (Char.ofNat (n + 0x800)) = n := by
      rw [markedCode, if_neg hmark, hnat]
      omega
    rw [List.cons_append, List.cons_append, codes, if_pos rfl, hcode, List.nil_append]
  · rename_i hsurrogate
    split
    · rename_i hmark
      rw [List.cons_append, List.cons_append, codes, if_pos rfl, markedCode, if_pos rfl, ← hmark,
        List.nil_append]
    · rename_i hmark
      simp only [isSurrogate, Bool.and_eq_true, decide_eq_true_eq] at hsurrogate
      have hvalid : n.isValidChar := by
        rcases Nat.lt_or_ge n 0xD800 with h | h
        · exact .inl h
        · exact .inr ⟨by omega, by omega⟩
      have hnat : (Char.ofNat n).toNat = n := Text.toNat_ofNat hvalid
      rw [List.singleton_append, codes_cons fun h => hmark (h ▸ hnat.symm), hnat]

/-- The code points of a text can be told from what stands for them. -/
theorem codes_flatMap_ofCode (h : ∀ n ∈ ns, n ≤ 0x10FFFF) : codes (ns.flatMap ofCode) = ns := by
  induction ns with
  | nil => rfl
  | cons n ns ih =>
    obtain ⟨hn, hns⟩ := List.forall_mem_cons.1 h
    rw [List.flatMap_cons, codes_ofCode hn, ih hns]

/-- Texts of different escapes are different. -/
theorem flatMap_ofCode_inj (hns : ∀ n ∈ ns, n ≤ 0x10FFFF) (hms : ∀ m ∈ ms, m ≤ 0x10FFFF) :
    ns.flatMap ofCode = ms.flatMap ofCode ↔ ns = ms := by
  refine ⟨fun h => ?_, fun h => by rw [h]⟩
  rw [← codes_flatMap_ofCode hns, h, codes_flatMap_ofCode hms]

end Runbook.Yaml
