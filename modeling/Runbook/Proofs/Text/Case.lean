import Runbook.Text.Case

namespace Runbook.Text

namespace CaseRun

def images (r : CaseRun) : List Nat :=
  (List.range ((r.last - r.first) / r.step + 1)).map fun k =>
    ((r.first + r.step * k : Nat) + r.shift).toNat

/-- Whether no code point that a run leads to is one that `r'` covers. They lie from `low` to
`high`. -/
def avoids (low high : Nat) (r r' : CaseRun) : Bool :=
  Nat.blt high r'.first || Nat.blt r'.last low || r.images.all (!r'.covers ·)

theorem exists_image {r : CaseRun} {n : Nat} (h : r.covers n = true) :
    ∃ k, k < (r.last - r.first) / r.step + 1 ∧ n = r.first + r.step * k ∧ n ≤ r.last := by
  simp only [covers, Bool.and_eq_true, decide_eq_true_eq, beq_iff_eq] at h
  obtain ⟨⟨hfirst, hlast⟩, hstep⟩ := h
  refine ⟨(n - r.first) / r.step, ?_, ?_, hlast⟩
  · have : (n - r.first) / r.step ≤ (r.last - r.first) / r.step :=
      Nat.div_le_div_right (by omega)
    omega
  · have := Nat.mul_div_cancel' (Nat.dvd_of_mod_eq_zero hstep)
    omega

theorem not_covers_of_avoids {r r' : CaseRun} {n : Nat}
    (h : avoids (r.first + r.shift).toNat (r.last + r.shift).toNat r r' = true)
    (hn : r.covers n = true) : r'.covers (n + r.shift).toNat = false := by
  obtain ⟨k, hk, hkn, hlast⟩ := exists_image hn
  simp only [avoids, Bool.or_eq_true, Nat.blt_eq] at h
  rcases h with (hhigh | hlow) | himages
  · have : ¬ r'.first ≤ (n + r.shift).toNat := by omega
    simp [covers, this]
  · have : ¬ (n + r.shift).toNat ≤ r'.last := by
      have : r.first ≤ n := by omega
      omega
    simp [covers, this]
  · have hmem : (n + r.shift).toNat ∈ r.images :=
      List.mem_map.2 ⟨k, List.mem_range.2 hk, by rw [hkn]⟩
    simpa using List.all_eq_true.1 himages _ hmem

end CaseRun

/-- The characters of which a lower case one is none. -/
def raisedRuns : List CaseRun := ⟨0x130, 0x130, 1, 0⟩ :: lowerRuns

theorem lowerRuns_avoid : (lowerRuns.all fun r => raisedRuns.all
    (CaseRun.avoids (r.first + r.shift).toNat (r.last + r.shift).toNat r)) = true := by
  decide +kernel

def Settled (c : Char) : Prop := lowerChar c = [c] ∧ c ≠ 'Σ'

instance (c : Char) : Decidable (Settled c) := inferInstanceAs (Decidable (_ ∧ _))

theorem settled_ascii : ∀ n : Fin 0x80, Settled (Char.ofNat n).toLower ∧
    ((raisedRuns.all fun r => !r.covers n) = true → Settled (Char.ofNat n)) := by
  decide +kernel

theorem settled_toLower {c : Char} (h : c.toNat < 0x80) : Settled c.toLower := by
  have hc := (settled_ascii ⟨c.toNat, h⟩).1
  rwa [Char.ofNat_toNat] at hc

theorem sigma_covered : (raisedRuns.any (·.covers 'Σ'.toNat)) = true := by decide +kernel

theorem find?_lowerLong {n : Nat} (h : n ≠ 0x130) : lowerLong.find? (·.1 == n) = none := by
  simp [lowerLong, Ne.symm h]

theorem settled_of_not_covered {c : Char} (h : ∀ r ∈ raisedRuns, r.covers c.toNat = false) :
    Settled c := by
  have hsigma : c ≠ 'Σ' := by
    rintro rfl
    obtain ⟨r, hr, hcovers⟩ := List.any_eq_true.1 sigma_covered
    rw [h r hr] at hcovers
    cases hcovers
  by_cases hascii : c.toNat < 0x80
  · have hc := (settled_ascii ⟨c.toNat, hascii⟩).2
    rw [Char.ofNat_toNat] at hc
    exact hc (List.all_eq_true.2 fun r hr => by simp [h r hr])
  · have hlong : c.toNat ≠ 0x130 := by
      intro hn
      have hr := h _ List.mem_cons_self
      rw [hn] at hr
      revert hr
      decide
    have hruns : lowerRuns.find? (·.covers c.toNat) = none :=
      List.find?_eq_none.2 fun r hr => by simp [h r (List.mem_cons_of_mem _ hr)]
    refine ⟨?_, hsigma⟩
    rw [lowerChar, if_neg hascii, otherCase, find?_lowerLong hlong, shifted, hruns]

theorem toNat_ofNat {n : Nat} (h : n.isValidChar) : (Char.ofNat n).toNat = n := by
  rw [Char.ofNat, dif_pos h]
  rfl

theorem settled_shifted {c : Char} (hlong : c.toNat ≠ 0x130) : Settled (shifted lowerRuns c) := by
  rw [shifted]
  cases hfind : lowerRuns.find? (·.covers c.toNat) with
  | none =>
    refine settled_of_not_covered (List.forall_mem_cons.2 ⟨?_, fun r hr => ?_⟩)
    · simp only [CaseRun.covers]
      simp
      omega
    · simpa using List.find?_eq_none.1 hfind r hr
  | some r =>
    have hr := List.mem_of_find?_eq_some hfind
    have hcovers : r.covers c.toNat = true := by simpa using List.find?_some hfind
    have hnot : ∀ r' ∈ raisedRuns, r'.covers (c.toNat + r.shift).toNat = false := fun r' hr' =>
      CaseRun.not_covers_of_avoids
        (List.all_eq_true.1 (List.all_eq_true.1 lowerRuns_avoid r hr) r' hr') hcovers
    dsimp only
    by_cases hvalid : (c.toNat + r.shift).toNat.isValidChar
    · refine settled_of_not_covered fun r' hr' => ?_
      rw [toNat_ofNat hvalid]
      exact hnot r' hr'
    · have hzero : Char.ofNat (c.toNat + r.shift).toNat = '\x00' := dif_neg hvalid
      rw [hzero]
      decide +kernel

theorem settled_lowerChar {c d : Char} (h : d ∈ lowerChar c) : Settled d := by
  rw [lowerChar] at h
  split at h
  · rename_i hascii
    rw [List.mem_singleton.1 h]
    exact settled_toLower hascii
  · by_cases hlong : c.toNat = 0x130
    · rw [otherCase, hlong] at h
      have hall : Settled (Char.ofNat 0x69) ∧ Settled (Char.ofNat 0x307) := by decide +kernel
      exact List.forall_mem_cons.2 ⟨hall.1, List.forall_mem_singleton.2 hall.2⟩ d h
    · rw [otherCase, find?_lowerLong hlong] at h
      rw [List.mem_singleton.1 h]
      exact settled_shifted hlong

theorem settled_lowerFrom {before cs : List Char} {d : Char} (h : d ∈ lowerFrom before cs) :
    Settled d := by
  induction cs generalizing before with
  | nil => cases h
  | cons c cs ih =>
    rw [lowerFrom] at h
    rcases List.mem_append.1 h with hhere | hrest
    · split at hhere
      · have hsigmas : Settled 'ς' ∧ Settled 'σ' := by decide +kernel
        rw [List.mem_singleton.1 hhere]
        split
        · exact hsigmas.1
        · exact hsigmas.2
      · exact settled_lowerChar hhere
    · exact ih hrest

theorem lowerFrom_of_settled {cs : List Char} (h : ∀ c ∈ cs, Settled c) (before : List Char) :
    lowerFrom before cs = cs := by
  induction cs generalizing before with
  | nil => rfl
  | cons c cs ih =>
    obtain ⟨hc, hcs⟩ := List.forall_mem_cons.1 h
    rw [lowerFrom, if_neg hc.2, hc.1, ih hcs]
    rfl

/-- Lower case is reached at once. -/
theorem lower_lower (s : String) : lower (lower s) = lower s := by
  rw [lower, lower, String.toList_ofList]
  exact congrArg String.ofList (lowerFrom_of_settled (fun _ h => settled_lowerFrom h) [])

end Runbook.Text
