import Runbook.Number.Layout
import Mathlib.Tactic.Ring

namespace Runbook

namespace Magnitude

variable {m : Magnitude}

theorem exists_unitsPerOne : ∃ n, n = 1074 ∧ unitsPerOne = Nat.pow 2 n := ⟨_, rfl, rfl⟩

theorem unitsPerOne_pos : 0 < unitsPerOne := by
  obtain ⟨n, -, hunits⟩ := exists_unitsPerOne
  rw [hunits]
  exact Nat.two_pow_pos n

theorem roundQuotient_mul (num den : Nat) {c : Nat} (hc : 0 < c) :
    roundQuotient (num * c) (den * c) = roundQuotient num den := by
  have hcmp (a b : Nat) : a * c < b * c ↔ a < b := Nat.mul_lt_mul_right hc
  rw [roundQuotient, roundQuotient, Nat.mul_div_mul_right _ _ hc, Nat.mul_mod_mul_right]
  simp only [← Nat.mul_assoc, hcmp]

theorem ofRatio?_mul (num den : Nat) {c : Nat} (hc : 0 < c) :
    ofRatio? (num * c) (den * c) = ofRatio? num den := by
  have hunits : num * c * unitsPerOne = num * unitsPerOne * c := Nat.mul_right_comm _ _ _
  have hden (k : Nat) : den * c * k = den * k * c := Nat.mul_right_comm _ _ _
  simp only [ofRatio?, hunits, hden, Nat.mul_div_mul_right _ _ hc, roundQuotient_mul _ _ hc]

theorem ofRatio?_congr {a b c d : Nat} (hb : 0 < b) (hd : 0 < d) (h : a * d = c * b) :
    ofRatio? a b = ofRatio? c d := by
  rw [← ofRatio?_mul a b hd, ← ofRatio?_mul c d hb, h, Nat.mul_comm b d]

/-- A decimal number that is neither far too large nor far too small for a magnitude. -/
structure Moderate (d : Decimal) : Prop where
  high : d.exponent ≤ 400
  low : -400 ≤ (d.digits.log2 / 3 + 1 : Int) + d.exponent

theorem Moderate.of_exponent {d : Decimal} (hlow : -400 ≤ d.exponent) (hhigh : d.exponent ≤ 400) :
    Moderate d := by
  refine ⟨hhigh, ?_⟩
  have hlog : (0 : Int) ≤ (d.digits.log2 : Int) / 3 := by omega
  omega

theorem ofDecimal?_eq {d : Decimal} (hd : d.digits ≠ 0) (h : Moderate d) :
    ofDecimal? d =
      ofRatio? (d.digits * 10 ^ d.exponent.toNat) (10 ^ (-d.exponent).toNat) := by
  have hhigh := h.high
  have hlow := h.low
  rw [ofDecimal?, if_neg hd]
  dsimp only
  rw [if_neg (by omega), if_neg (by omega)]
  split
  · have hneg : (-d.exponent).toNat = 0 := by omega
    rw [hneg]
    rfl
  · have hpos : d.exponent.toNat = 0 := by omega
    rw [hpos, Nat.pow_zero, Nat.mul_one]
    rfl

theorem ofDecimal?_shift {x k : Nat} {e : Int} (hx : x ≠ 0) (h : Moderate ⟨x, e⟩)
    (h' : Moderate ⟨x * 10 ^ k, e - k⟩) : ofDecimal? ⟨x * 10 ^ k, e - k⟩ = ofDecimal? ⟨x, e⟩ := by
  have hx' : x * 10 ^ k ≠ 0 := Nat.mul_ne_zero hx (by simp)
  rw [ofDecimal?_eq hx h, ofDecimal?_eq hx' h']
  refine ofRatio?_congr (Nat.pow_pos (by decide)) (Nat.pow_pos (by decide)) ?_
  dsimp only
  have hexp : k + (e - k).toNat + (-e).toNat = e.toNat + (-(e - k)).toNat := by omega
  calc x * 10 ^ k * 10 ^ (e - k).toNat * 10 ^ (-e).toNat
      = x * 10 ^ (k + (e - k).toNat + (-e).toNat) := by ring
    _ = x * 10 ^ e.toNat * 10 ^ (-(e - k)).toNat := by rw [hexp]; ring

theorem isZero_iff : m.isZero = true ↔ m = zero := by
  obtain ⟨significand, scale, fits, normal, inRange⟩ := m
  constructor
  · intro h
    obtain rfl : significand = 0 := by simpa [isZero] using h
    obtain rfl : scale = 0 := normal.resolve_right (by decide)
    rfl
  · intro h
    rw [h]
    rfl

/-- What is read as a magnitude that is not zero is moderate. -/
theorem moderate_of_eq_some {d : Decimal} (hm : m.isZero = false) (h : ofDecimal? d = some m) :
    d.digits ≠ 0 ∧ Moderate d := by
  have hne : some zero ≠ some m := by
    intro hzero
    rw [← Option.some.inj hzero] at hm
    cases hm
  rw [ofDecimal?] at h
  split at h
  · exact (hne h).elim
  · rename_i hd
    dsimp only at h
    split at h
    · cases h
    · rename_i hhigh
      split at h
      · exact (hne h).elim
      · rename_i hlow
        exact ⟨hd, by omega, by omega⟩

theorem log2_mul_ten {x : Nat} (hx : x ≠ 0) : x.log2 + 3 ≤ (x * 10).log2 := by
  rw [Nat.le_log2 (by omega), Nat.pow_add]
  exact Nat.mul_le_mul (Nat.log2_self_le hx) (by decide)

theorem Moderate.ten {x : Nat} {e : Int} (hx : x ≠ 0) (h : Moderate ⟨x, e⟩) :
    Moderate ⟨x * 10, e - 1⟩ := by
  have hlog := log2_mul_ten hx
  have hlow := h.low
  have hhigh := h.high
  dsimp only at hlow hhigh
  exact ⟨by dsimp only; omega, by dsimp only; omega⟩

theorem ofDecimal?_trim (fuel : Nat) (d : Decimal) (hlow : -400 ≤ d.exponent)
    (hhigh : d.exponent + fuel ≤ 400) : ofDecimal? (d.trim fuel) = ofDecimal? d := by
  induction fuel generalizing d with
  | zero => rfl
  | succ fuel ih =>
    obtain ⟨x, e⟩ := d
    dsimp only at hlow hhigh
    rw [Decimal.trim]
    split
    · rename_i hx
      obtain ⟨hx, hmod⟩ := hx
      dsimp only at hx hmod ⊢
      rw [ih _ (by dsimp only; omega) (by dsimp only; omega)]
      have hdigits : x / 10 * 10 ^ 1 = x := by omega
      have hexp : e + 1 - ((1 : Nat) : Int) = e := by omega
      have hshift := @ofDecimal?_shift (x / 10) 1 (e + 1) (by omega)
        (.of_exponent (by dsimp only; omega) (by dsimp only; omega))
        (.of_exponent (by dsimp only; omega) (by dsimp only; omega))
      rw [hdigits, hexp] at hshift
      exact hshift.symm
    · rfl

theorem readsBack_iff {d : Decimal} : m.readsBack d = true ↔ ofDecimal? d = some m :=
  decide_eq_true_iff

theorem onGrid?_eq_some {p : Int} {d : Decimal} (h : m.onGrid? p = some d) :
    d.exponent = p ∧ ofDecimal? d = some m := by
  unfold onGrid? at h
  dsimp only at h
  -- Which neighbour is tried first hangs on the rounding; the one that is taken reads back.
  by_cases hround : roundQuotient (m.onGrid p).1 (m.onGrid p).2 = (m.onGrid p).1 / (m.onGrid p).2
  all_goals
    simp only [hround, if_true, if_false] at h
    split at h
    · rename_i hback
      obtain rfl := Option.some.inj h
      exact ⟨rfl, readsBack_iff.1 hback⟩
    · split at h
      · rename_i hback
        obtain rfl := Option.some.inj h
        exact ⟨rfl, readsBack_iff.1 hback⟩
      · exact (Option.some_ne_none _ h.symm).elim

theorem searchGrids_eq_some {places : Int} {fuel n : Nat} {d : Decimal}
    (h : m.searchGrids places fuel n = some d) :
    places - (n + fuel) ≤ d.exponent ∧ d.exponent ≤ places - n ∧ ofDecimal? d = some m := by
  induction fuel generalizing n with
  | zero => cases h
  | succ fuel ih =>
    rw [searchGrids] at h
    cases hgrid : m.onGrid? (places - n) with
    | some d' =>
      rw [hgrid] at h
      obtain rfl := Option.some.inj h
      obtain ⟨hexp, hback⟩ := onGrid?_eq_some hgrid
      exact ⟨by omega, by omega, hback⟩
    | none =>
      rw [hgrid] at h
      obtain ⟨hlow, hhigh, hback⟩ := ih h
      exact ⟨by omega, by omega, hback⟩

theorem leadingZeros_le (num den fuel j : Nat) : leadingZeros num den fuel j ≤ j + fuel := by
  induction fuel generalizing j with
  | zero => exact Nat.le_refl _
  | succ fuel ih =>
    rw [leadingZeros]
    split
    · omega
    · exact Nat.le_trans (ih _) (by omega)

theorem units_lt (m : Magnitude) {k : Nat} (hk : 342 ≤ k) : m.units < 10 ^ k * unitsPerOne := by
  obtain ⟨n, hn, hunits⟩ := exists_unitsPerOne
  have hrange := m.inRange
  have hfits : m.significand < 2 ^ 53 := m.fits
  have height : (2 : Nat) ^ (3 * k) ≤ 10 ^ k := by
    rw [Nat.pow_mul]
    exact Nat.pow_le_pow_left (by decide) k
  calc m.units < 2 ^ 53 * 2 ^ m.scale := Nat.mul_lt_mul_of_pos_right hfits (Nat.two_pow_pos _)
    _ = 2 ^ (53 + m.scale) := (Nat.pow_add _ _ _).symm
    _ ≤ 2 ^ (3 * k + n) := Nat.pow_le_pow_right (by decide) (by omega)
    _ = 2 ^ (3 * k) * unitsPerOne := by rw [Nat.pow_add, hunits, Nat.pow_eq]
    _ ≤ 10 ^ k * unitsPerOne := Nat.mul_le_mul_right _ height

theorem decimalPlaces_bounds (m : Magnitude) : -330 ≤ m.decimalPlaces ∧ m.decimalPlaces ≤ 342 := by
  rw [decimalPlaces]
  split
  · have hlen {k : Nat} (hk : 342 ≤ k) : (natDigits (m.units / unitsPerOne)).length ≤ k := by
      refine (Nat.length_toDigits_le_iff (by decide) (by omega)).2 ?_
      rw [Nat.div_lt_iff_lt_mul unitsPerOne_pos]
      exact m.units_lt hk
    have := hlen (Nat.le_refl 342)
    omega
  · have hzeros := leadingZeros_le m.units unitsPerOne 330 1
    omega

theorem ofRatio?_units (m : Magnitude) : ofRatio? m.units unitsPerOne = some m := by
  have hfits : m.significand < 2 ^ 53 := m.fits
  have hscale : m.units.log2 - 52 = m.scale := by
    rcases m.normal with hzero | hlow
    · have hunits : m.units = m.significand := by
        rw [units, hzero]
        exact Nat.mul_one _
      by_cases hsig : m.significand = 0
      · rw [hunits, hsig, hzero]
        rfl
      · have hlog : m.significand.log2 < 53 := (Nat.log2_lt hsig).2 hfits
        rw [hunits]
        omega
    · have hlow : 2 ^ 52 ≤ m.significand := hlow
      have hpow : 0 < 2 ^ m.scale := Nat.two_pow_pos _
      have hunits : m.units = m.significand * 2 ^ m.scale := rfl
      have hne : m.units ≠ 0 := by
        rw [hunits]
        exact Nat.mul_ne_zero (by omega) (by omega)
      have hge : 52 + m.scale ≤ m.units.log2 := by
        rw [Nat.le_log2 hne, Nat.pow_add, hunits]
        exact Nat.mul_le_mul_right _ hlow
      have hlt : m.units.log2 < 53 + m.scale := by
        rw [Nat.log2_lt hne, Nat.pow_add, hunits]
        exact Nat.mul_lt_mul_of_pos_right hfits hpow
      omega
  have hquotient : roundQuotient (m.units * unitsPerOne) (unitsPerOne * Nat.pow 2 m.scale) =
      m.significand := by
    have hpow : 0 < Nat.pow 2 m.scale := Nat.two_pow_pos _
    rw [Nat.mul_comm unitsPerOne, roundQuotient_mul _ _ unitsPerOne_pos, roundQuotient, units,
      Nat.mul_div_cancel _ hpow, Nat.mul_mod_left]
    rw [if_pos (by omega)]
  rw [ofRatio?]
  rw [Nat.mul_div_cancel _ unitsPerOne_pos, hscale, hquotient, if_neg (Nat.ne_of_lt m.fits),
    ofParts?, dif_pos ⟨m.fits, m.normal, m.inRange⟩]

theorem ofDecimal?_exactDecimal (hm : m.isZero = false) :
    ofDecimal? m.exactDecimal = some m := by
  obtain ⟨n, hn, hunits⟩ := exists_unitsPerOne
  have hdecimal : m.exactDecimal = ⟨m.units * 5 ^ n, -n⟩ := by
    rw [hn]
    rfl
  have hne : m.units ≠ 0 := by
    have hsig : m.significand ≠ 0 := by simpa [isZero] using hm
    exact Nat.mul_ne_zero hsig (Nat.ne_of_gt (Nat.two_pow_pos _))
  have hdigits : m.units * 5 ^ n ≠ 0 := Nat.mul_ne_zero hne (by simp)
  have hlog : 2 * n ≤ (m.units * 5 ^ n).log2 := by
    rw [Nat.le_log2 hdigits, Nat.pow_mul]
    exact Nat.le_trans (Nat.pow_le_pow_left (by decide) n)
      (Nat.le_mul_of_pos_left _ (Nat.pos_of_ne_zero hne))
  rw [hdecimal, ofDecimal?_eq hdigits ⟨by dsimp only; omega, by dsimp only; omega⟩,
    ← ofRatio?_units m]
  refine ofRatio?_congr (Nat.pow_pos (by decide)) unitsPerOne_pos ?_
  dsimp only
  have hpos : (-(n : Int)).toNat = 0 := by omega
  have hneg : (-(-(n : Int))).toNat = n := by omega
  have hten : (10 : Nat) ^ n = 5 ^ n * 2 ^ n := by rw [← Nat.mul_pow]
  rw [hpos, hneg, hunits, hten, Nat.pow_eq]
  ring

/-- The fewest digits are read back. -/
theorem ofDecimal?_shortest (hm : m.isZero = false) : ofDecimal? m.shortest = some m := by
  rw [shortest, hm, if_neg (by simp)]
  cases hsearch : m.searchGrids m.decimalPlaces 17 1 with
  | none => exact ofDecimal?_exactDecimal hm
  | some d =>
    obtain ⟨hlow, hhigh, hback⟩ := searchGrids_eq_some hsearch
    have hplaces := m.decimalPlaces_bounds
    dsimp only
    rw [ofDecimal?_trim 20 d (by omega) (by omega), hback]

theorem units_inj {n : Magnitude} (h : m.units = n.units) : m = n := by
  have hm := ofRatio?_units m
  rw [h, ofRatio?_units n] at hm
  exact (Option.some.inj hm).symm

theorem isZero_iff_units : m.isZero = true ↔ m.units = 0 := by
  rw [isZero_iff]
  refine ⟨fun h => ?_, fun h => units_inj ?_⟩
  · rw [h]
    rfl
  · rw [h]
    rfl

theorem toNat?_eq_some_iff {n : Nat} :
    m.toNat? = some n ↔ m.units = n * unitsPerOne := by
  have hpos := unitsPerOne_pos
  simp only [toNat?, Option.ite_none_right_eq_some, Option.some.injEq]
  generalize unitsPerOne = one at *
  constructor
  · rintro ⟨hmod, rfl⟩
    exact (Nat.div_mul_cancel (Nat.dvd_of_mod_eq_zero hmod)).symm
  · intro h
    rw [h]
    exact ⟨Nat.mul_mod_left n one, Nat.mul_div_cancel n hpos⟩

end Magnitude

namespace Binary64

theorem toInt?_finite (s : Bool) (m : Magnitude) :
    (finite s m).toInt? = m.toNat?.map fun n : Nat => if s then -(n : Int) else n := by
  cases h : m.toNat? <;> simp [toInt?, h]

theorem toInt?_eq_some_iff {x : Binary64} {n : Int} :
    x.toInt? = some n ↔ x.units? = some (n * Magnitude.unitsPerOne) := by
  cases x with
  | finite s m =>
    have hpos := Magnitude.unitsPerOne_pos
    rw [toInt?_finite, Option.map_eq_some_iff, units?, Option.some.injEq]
    simp only [Magnitude.toNat?_eq_some_iff]
    generalize Magnitude.unitsPerOne = one at *
    constructor
    · rintro ⟨a, ha, rfl⟩
      cases s <;> simp [ha]
    · intro h
      have habs : m.units = n.natAbs * one := by
        have := congrArg Int.natAbs h
        cases s <;> simpa [Int.natAbs_mul] using this
      refine ⟨n.natAbs, habs, ?_⟩
      rw [habs] at h
      refine Int.eq_of_mul_eq_mul_right (Int.natCast_ne_zero.2 hpos.ne') ?_
      cases s <;> simpa using h
  | _ => simp only [toInt?, units?, reduceCtorEq]

end Binary64

end Runbook
