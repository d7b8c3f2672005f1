import Runbook.Proofs.Json.Reading
import Runbook.Text.Blank

namespace Runbook.Json

open Token

variable {c : Char} {cs : List Char}

theorem toNat_lt_of_isWordChar (h : isWordChar c = true) : c.toNat < 128 := by
  change c.val.toNat < 128
  rw [isWordChar] at h
  delta Char.isAlphanum Char.isAlpha Char.isUpper Char.isLower Char.isDigit at h
  simp only [Bool.or_eq_true, Bool.and_eq_true, decide_eq_true_eq, beq_iff_eq, ge_iff_le,
    UInt32.le_iff_toNat_le] at h
  rcases h with ((((⟨-, h⟩ | ⟨-, h⟩) | ⟨-, h⟩) | rfl) | rfl) | rfl
  · exact Nat.lt_of_le_of_lt h (by decide)
  · exact Nat.lt_of_le_of_lt h (by decide)
  · exact Nat.lt_of_le_of_lt h (by decide)
  · decide
  · decide
  · decide

theorem isWordChar_of_isBlank (h : Text.isBlank c = true) : isWordChar c = false := by
  by_contra hword
  rw [Bool.not_eq_false] at hword
  have hsmall : ∀ n < 128,
      isWordChar (Char.ofNat n) = true → Text.isBlank (Char.ofNat n) = false := by
    decide
  have hno := hsmall c.toNat (toNat_lt_of_isWordChar hword)
  rw [Char.ofNat_toNat, h] at hno
  cases hno hword

theorem lex_isBlank (h : Text.isBlank c = true) (hspace : isSpace c = false) (cs : List Char) :
    lex c cs = ([.bad .malformed], none) := by
  have hne {x : Char} (hx : Text.isBlank x = false) : c ≠ x := by
    rintro rfl
    rw [h] at hx
    cases hx
  rw [lex, if_neg (by simp [hspace]), if_neg (hne (by decide)), if_neg (hne (by decide)),
    if_neg (hne (by decide)), if_neg (hne (by decide)), if_neg (hne (by decide)),
    if_neg (hne (by decide)), if_neg (hne (by decide)), if_neg (by simp [isWordChar_of_isBlank h])]

theorem read_spaces (depth : Option Nat) (h : ∀ c ∈ cs, isSpace c = true) (more : List Char) :
    read depth (cs ++ more) = read depth more := by
  rw [read, ofText_spaces h, read]

/-- Behind blanks that documents do not know no document is read. -/
theorem read_blanks (depth : Option Nat) (h : ∀ c ∈ cs, Text.isBlank c = true)
    (hspace : ∃ c ∈ cs, isSpace c = false) (more : List Char) :
    ∃ f, read depth (cs ++ more) = .error f := by
  have hbad : .bad .malformed ∈ ofText (cs ++ more) := by
    induction cs with
    | nil => simp at hspace
    | cons c cs ih =>
      obtain ⟨hc, hcs⟩ := List.forall_mem_cons.1 h
      rw [List.cons_append, ofText_cons]
      cases hs : isSpace c with
      | false =>
        rw [lex_isBlank hc hs]
        exact List.mem_cons_self
      | true =>
        have hrest : ∃ c ∈ cs, isSpace c = false := by simpa [hs] using hspace
        rw [lex, if_pos hs]
        exact ih hcs hrest
  cases hread : read depth (cs ++ more) with
  | error f => exact ⟨f, rfl⟩
  | ok j => exact (bad_not_mem_of_ofTokens hread _ hbad).elim

end Runbook.Json
