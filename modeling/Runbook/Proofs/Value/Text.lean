import Runbook.Suite
import Runbook.Value.Text

namespace Runbook

theorem str_beq_str (s t : String) : (Value.str s == Value.str t) = (s == t) := by
  change Value.same (.str s) (.str t) = _
  rw [Value.same]

theorem Value.eq_str_of_beq {v : Value} {s : String} (h : (v == Value.str s) = true) :
    v = .str s := by
  change Value.same v (.str s) = true at h
  cases v <;> simp_all [Value.same, Value.whole?]

theorem mem_natDigits {n : Nat} {c : Char} (h : c ∈ natDigits n) : c.isDigit = true :=
  Nat.isDigit_of_mem_toDigits (by decide) (by decide) h

theorem not_mem_natDigits (n : Nat) : 'm' ∉ natDigits n := fun h => by
  have := mem_natDigits h
  revert this
  decide

theorem not_mem_intDigits (n : Int) : 'm' ∉ intDigits n := by
  unfold intDigits
  split <;> simp [not_mem_natDigits]

theorem not_mem_zeros (n : Nat) : 'm' ∉ NumberLayout.zeros n := by
  intro h
  have := List.eq_of_mem_replicate h
  revert this
  decide

theorem not_mem_magnitudeText (l : NumberLayout) (m : Magnitude) : 'm' ∉ l.magnitudeText m := by
  have htake : ∀ n k, 'm' ∉ (natDigits n).take k := fun n k h =>
    not_mem_natDigits n (List.mem_of_mem_take h)
  have hdrop : ∀ n k, 'm' ∉ (natDigits n).drop k := fun n k h =>
    not_mem_natDigits n (List.mem_of_mem_drop h)
  have htail : ∀ n, 'm' ∉ (natDigits n).tail := fun n h =>
    not_mem_natDigits n (List.mem_of_mem_tail h)
  have hexp : ∀ e, 'm' ∉ l.exponentText e := by
    intro e
    unfold NumberLayout.exponentText
    split <;> simp [not_mem_natDigits, not_mem_zeros]
  unfold NumberLayout.magnitudeText
  dsimp only
  split
  · decide
  split
  · split
    · simp [not_mem_natDigits, not_mem_zeros]
    split
    · simp [htake, hdrop]
    · simp [not_mem_natDigits, not_mem_zeros]
  · split
    · split <;> simp [htake, hexp]
    · simp [htake, htail, hexp]

theorem text_float_ne (x : Binary64) : Value.numbers.text x ≠ initName := by
  intro h
  have hmem : 'm' ∈ (Value.numbers.text x).toList := by
    rw [h]
    decide
  cases x with
  | nan => revert hmem; decide
  | infinite s => revert hmem; cases s <;> decide
  | finite s m =>
    rw [NumberLayout.text, String.toList_ofList, List.mem_append] at hmem
    rcases hmem with hmem | hmem
    · cases s <;> simp at hmem
    · exact not_mem_magnitudeText _ _ hmem

theorem mem_text_date (d : Date) : '-' ∈ d.text.toList := by
  simp [Date.text]

theorem Value.eq_init_of_text? {v : Value} (h : v.text? = some initName) : v = .str initName := by
  have hhead {t : String} (ht : t = initName) : t.toList.head? = some 'm' := ht ▸ rfl
  cases v with
  | str s => exact congrArg Value.str (Option.some.inj h)
  | null => exact absurd (Option.some.inj h) (by decide)
  | bool b => exact absurd (Option.some.inj h) (by cases b <;> decide)
  | int n =>
    have ht : Value.intText? n = some initName := h
    unfold Value.intText? at ht
    split at ht
    · have hm : 'm' ∈ (String.ofList (intDigits n)).toList := by
        rw [Option.some.inj ht]
        decide
      rw [String.toList_ofList] at hm
      exact (not_mem_intDigits n hm).elim
    · cases ht
  | float x => exact (text_float_ne x (Option.some.inj h)).elim
  | bytes data =>
    have hb := hhead (t := Text.quotedBytes data) (Option.some.inj h)
    simp [Text.quotedBytes] at hb
  | date d =>
    have hm : '-' ∈ initName.toList := by
      rw [← Option.some.inj h]
      exact mem_text_date d
    exact absurd hm (by decide)
  | dateTime t =>
    have hm : '-' ∈ initName.toList := by
      rw [← Option.some.inj h]
      simp [DateTime.text, mem_text_date]
    exact absurd hm (by decide)
  | list items =>
    obtain ⟨ts, -, ht⟩ := Option.map_eq_some_iff.1 h
    simpa using hhead ht
  | tuple items =>
    obtain ⟨ts, -, ht⟩ := Option.map_eq_some_iff.1 h
    rcases ts with _ | ⟨t, _ | ⟨t', ts⟩⟩ <;> simpa using hhead ht
  | map items =>
    obtain ⟨ts, -, ht⟩ := Option.map_eq_some_iff.1 h
    simpa using hhead ht
  | set items =>
    obtain ⟨ts, -, ht⟩ := Option.map_eq_some_iff.1 h
    rcases ts with _ | ⟨t, ts⟩ <;> simpa using hhead ht

end Runbook
