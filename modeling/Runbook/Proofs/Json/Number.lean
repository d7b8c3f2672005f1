import Runbook.Json.Token
import Runbook.Proofs.Number.Binary64
import Runbook.Proofs.Value.Text
import Runbook.Value.Text

namespace Runbook

open Text (decimalValue?)

theorem decimalValue?_digit {c : Char} (hc : c.isDigit = true) :
    decimalValue? c = some (c.toNat - 48) := by
  rw [decimalValue?, if_pos]
  simpa [Char.isDigit, Char.le_def] using hc

theorem mapM_digits {ds : List Char} (h : ∀ c ∈ ds, c.isDigit = true) :
    ds.mapM decimalValue? = some (ds.map fun c => c.toNat - 48) := by
  induction ds with
  | nil => rfl
  | cons c ds ih =>
    obtain ⟨hc, hds⟩ := List.forall_mem_cons.1 h
    rw [List.mapM_cons, decimalValue?_digit hc, ih hds]
    rfl

theorem digitsValue_eq (ds : List Char) :
    Numeral.digitsValue (ds.map fun c => c.toNat - 48) = Nat.ofDigitChars 10 ds 0 := by
  rw [Numeral.digitsValue, List.foldl_map, Nat.ofDigitChars_eq_foldl]
  rfl

theorem ofDigitChars_natDigits (n : Nat) : Nat.ofDigitChars 10 (natDigits n) 0 = n :=
  Nat.ofDigitChars_ten_toDigits

theorem natDigits_ne_nil (n : Nat) : natDigits n ≠ [] := Nat.toDigits_ne_nil

theorem head?_append_left {α : Type} {as : List α} (h : as ≠ []) (bs : List α) :
    (as ++ bs).head? = as.head? := by
  cases as with
  | nil => exact (h rfl).elim
  | cons a as => rfl

theorem head?_natDigits {n : Nat} (h : n ≠ 0) : (natDigits n).head? ≠ some '0' := by
  induction n using Nat.strongRecOn with
  | ind n ih =>
    rw [natDigits, Nat.toDigits_eq_if (by decide)]
    split
    · rename_i hlt
      have hdigit : ∀ d, d < 10 → d ≠ 0 → Nat.digitChar d ≠ '0' := by decide
      simpa using hdigit n hlt h
    · have hrest := ih (n / 10) (by omega) (by omega)
      rwa [head?_append_left Nat.toDigits_ne_nil]

theorem digits?_natDigits {n : Nat} (h : (natDigits n).length ≤ Numeral.digitLimit) :
    Numeral.digits? (natDigits n) = some n := by
  have hne : (natDigits n).isEmpty = false := by simpa using natDigits_ne_nil n
  rw [Numeral.digits?, hne, Bool.false_or, if_neg (by simpa using h),
    mapM_digits fun c hc => mem_natDigits hc, Option.map_some, digitsValue_eq,
    ofDigitChars_natDigits]

theorem spanDigits_digits {ds : List Char} (h : ∀ c ∈ ds, c.isDigit = true) :
    Numeral.spanDigits ds = (ds.map fun c => c.toNat - 48, []) := by
  induction ds with
  | nil => rfl
  | cons c ds ih =>
    obtain ⟨hc, hds⟩ := List.forall_mem_cons.1 h
    rw [Numeral.spanDigits, decimalValue?_digit hc, ih hds]
    rfl

theorem isDigit_of_mem_zeros {n : Nat} {c : Char} (h : c ∈ NumberLayout.zeros n) :
    c.isDigit = true := by
  rw [List.eq_of_mem_replicate h]
  rfl

theorem signed_natAbs (e : Int) : Numeral.signed (decide (e < 0)) e.natAbs = e := by
  rw [Numeral.signed]
  split
  · rename_i h
    have := of_decide_eq_true h
    omega
  · rename_i h
    have : ¬ e < 0 := by simpa using h
    omega

theorem exponent?_exponentText (l : NumberLayout) (e : Int) :
    Numeral.exponent? ('e' :: l.exponentText e) = some e := by
  have hdigits : ∀ c ∈ NumberLayout.zeros (l.exponentDigits - (natDigits e.natAbs).length) ++
      natDigits e.natAbs, c.isDigit = true := by
    intro c hc
    rcases List.mem_append.1 hc with hc | hc
    · exact isDigit_of_mem_zeros hc
    · exact mem_natDigits hc
  have hvalue : Nat.ofDigitChars 10
      (NumberLayout.zeros (l.exponentDigits - (natDigits e.natAbs).length) ++ natDigits e.natAbs) 0 =
        e.natAbs := by
    rw [Nat.ofDigitChars_append, NumberLayout.zeros, Nat.ofDigitChars_replicate_zero, Nat.mul_zero,
      ofDigitChars_natDigits]
  have hsign : Numeral.splitSign (l.exponentText e) = (decide (e < 0),
      NumberLayout.zeros (l.exponentDigits - (natDigits e.natAbs).length) ++
        natDigits e.natAbs) := by
    rw [NumberLayout.exponentText]
    by_cases h : e < 0 <;> simp [h, Numeral.splitSign]
  have hne : NumberLayout.zeros (l.exponentDigits - (natDigits e.natAbs).length) ++
      natDigits e.natAbs ≠ [] := by
    simp [natDigits_ne_nil]
  rw [Numeral.exponent?, if_pos (.inl rfl), hsign]
  dsimp only
  rw [spanDigits_digits hdigits]
  cases hds : NumberLayout.zeros (l.exponentDigits - (natDigits e.natAbs).length) ++
      natDigits e.natAbs with
  | nil => exact (hne hds).elim
  | cons d ds =>
    rw [hds] at hvalue
    have hmap : (d.toNat - 48) :: ds.map (fun c => c.toNat - 48) =
        (d :: ds).map fun c => c.toNat - 48 := rfl
    rw [List.map_cons]
    dsimp only
    rw [hmap, digitsValue_eq, hvalue, signed_natAbs]

namespace Json.Token

theorem isDigit_eq (c : Char) : isDigit c = c.isDigit := by
  simp [isDigit, Char.isDigit, Char.le_def]

/-- The digits in front of the point: one of them, or no zero at the front. -/
structure IsWhole (ds : List Char) : Prop where
  digits : ∀ c ∈ ds, c.isDigit = true
  nonempty : ds ≠ []
  zero : ds.head? = some '0' → ds = ['0']

theorem isWhole_natDigits (n : Nat) : IsWhole (natDigits n) where
  digits _ h := mem_natDigits h
  nonempty := natDigits_ne_nil n
  zero h := by
    by_cases hn : n = 0
    · rw [hn]
      rfl
    · exact (head?_natDigits hn h).elim

theorem span_isDigit {ds rest : List Char} (h : ∀ c ∈ ds, c.isDigit = true)
    (hrest : ∀ c, rest.head? = some c → c.isDigit = false) :
    (ds ++ rest).takeWhile isDigit = ds ∧ (ds ++ rest).dropWhile isDigit = rest := by
  have hds : ∀ c ∈ ds, isDigit c = true := fun c hc => isDigit_eq c ▸ h c hc
  rw [List.takeWhile_append_of_pos hds, List.dropWhile_append_of_pos hds]
  cases rest with
  | nil => simp
  | cons c rest =>
    have hc : isDigit c = false := isDigit_eq c ▸ hrest c rfl
    simp [hc]

theorem whole?_append {ds rest : List Char} (h : IsWhole ds)
    (hrest : ∀ c, rest.head? = some c → c.isDigit = false) :
    whole? (ds ++ rest) = some (ds, rest) := by
  obtain ⟨htake, hdrop⟩ := span_isDigit h.digits hrest
  rw [whole?, htake, hdrop]
  split
  · exact (h.nonempty rfl).elim
  · rfl
  · rename_i hzero
    exact (hzero (List.cons.inj (h.zero rfl)).2).elim
  · rfl

structure Ends (ending : List Char) (e : Int) : Prop where
  exponent : Numeral.exponent? ending = some e
  head : ∀ c, ending.head? = some c → c.isDigit = false ∧ c ≠ '.'

theorem Ends.nil : Ends [] 0 := ⟨rfl, by simp⟩

theorem Ends.exponentText (l : NumberLayout) (e : Int) : Ends ('e' :: l.exponentText e) e where
  exponent := exponent?_exponentText l e
  head := by
    intro c hc
    obtain rfl := Option.some.inj hc
    decide

def pointed (fraction : List Char) : List Char :=
  if fraction.isEmpty then [] else '.' :: fraction

theorem fraction?_pointed {fraction ending : List Char} {e : Int}
    (h : ∀ c ∈ fraction, c.isDigit = true) (he : Ends ending e) :
    fraction? (pointed fraction ++ ending) = some (fraction, ending) := by
  cases fraction with
  | nil =>
    rw [pointed, List.isEmpty_nil, if_pos rfl, List.nil_append]
    unfold fraction?
    split
    · exact ((he.head _ rfl).2 rfl).elim
    · rfl
  | cons d ds =>
    obtain ⟨htake, hdrop⟩ := span_isDigit h fun c hc => (he.head c hc).1
    rw [pointed, List.isEmpty_cons, if_neg (by simp), List.cons_append, fraction?, htake, hdrop]

def afterSign (negative : Bool) (body : List Char) : Except ReadFault Json :=
  match whole? body with
  | none => .error .malformed
  | some (whole, []) => signedWhole negative whole
  | some (whole, rest) =>
    match fraction? rest with
    | none => .error .malformed
    | some (fraction, rest) =>
      match Numeral.exponent? rest with
      | none => .error .malformed
      | some e =>
        let digits := (whole ++ fraction).map fun c => c.toNat - 48
        .ok (.float (Binary64.ofDecimal negative
          ⟨Numeral.digitsValue digits, e - fraction.length⟩))

theorem number_eq (s : Bool) {body : List Char} (h : body.head? ≠ some '-') :
    number ((if s then ['-'] else []) ++ body) = afterSign s body := by
  cases s with
  | true => rfl
  | false =>
    cases body with
    | nil => rfl
    | cons c cs =>
      have hc : c ≠ '-' := by simpa using h
      rw [if_neg (by simp), List.nil_append, number]
      · rfl
      · exact fun cs hminus => hc (List.cons.inj hminus).1

theorem IsWhole.no_minus {ds : List Char} (h : IsWhole ds) (rest : List Char) :
    (ds ++ rest).head? ≠ some '-' := by
  rw [head?_append_left h.nonempty]
  intro hminus
  have := h.digits '-' (List.mem_of_head? hminus)
  revert this
  decide

theorem number_intDigits (n : Int) :
    number (intDigits n) = signedWhole (decide (n < 0)) (natDigits n.natAbs) := by
  have hwhole := isWhole_natDigits n.natAbs
  have hsplit : intDigits n = (if decide (n < 0) then ['-'] else []) ++ natDigits n.natAbs := by
    rw [intDigits]
    by_cases hn : n < 0 <;> simp [hn]
  have hdigits : whole? (natDigits n.natAbs) = some (natDigits n.natAbs, []) := by
    have hsplit : whole? (natDigits n.natAbs ++ []) = some (natDigits n.natAbs, []) :=
      whole?_append hwhole (by simp)
    rwa [List.append_nil] at hsplit
  have hminus := hwhole.no_minus []
  rw [List.append_nil] at hminus
  rw [hsplit, number_eq _ hminus, afterSign, hdigits]

theorem number_whole (n : Int) (h : (natDigits n.natAbs).length ≤ Numeral.digitLimit) :
    number (intDigits n) = .ok (.int n) := by
  rw [number_intDigits, signedWhole, digits?_natDigits h]
  dsimp only
  rw [signed_natAbs]

theorem number_long (n : Int) (h : Numeral.digitLimit < (natDigits n.natAbs).length) :
    number (intDigits n) = .error .longNumber := by
  rw [number_intDigits, signedWhole, Numeral.digits?, if_pos (by simp [h])]

theorem number_parts (s : Bool) {whole fraction ending : List Char} {e : Int}
    (hwhole : IsWhole whole) (hfraction : ∀ c ∈ fraction, c.isDigit = true)
    (he : Ends ending e) (hne : pointed fraction ++ ending ≠ []) :
    number ((if s then ['-'] else []) ++ (whole ++ (pointed fraction ++ ending))) =
      .ok (.float (Binary64.ofDecimal s
        ⟨Nat.ofDigitChars 10 (whole ++ fraction) 0, e - fraction.length⟩)) := by
  have hrest : ∀ c, (pointed fraction ++ ending).head? = some c → c.isDigit = false := by
    intro c hc
    cases fraction with
    | nil => exact (he.head c hc).1
    | cons d ds =>
      obtain rfl := Option.some.inj hc
      rfl
  rw [number_eq s (hwhole.no_minus _), afterSign, whole?_append hwhole hrest]
  cases hcs : pointed fraction ++ ending with
  | nil => exact (hne hcs).elim
  | cons c cs =>
    dsimp only
    rw [← hcs, fraction?_pointed hfraction he]
    dsimp only
    rw [he.exponent]
    dsimp only
    rw [digitsValue_eq]

theorem number_of_parts (s : Bool) {whole fraction ending : List Char} {e : Int} {m : Magnitude}
    (hwhole : IsWhole whole) (hfraction : ∀ c ∈ fraction, c.isDigit = true)
    (he : Ends ending e) (hne : pointed fraction ++ ending ≠ [])
    (hm : Magnitude.ofDecimal?
      ⟨Nat.ofDigitChars 10 (whole ++ fraction) 0, e - fraction.length⟩ = some m) :
    number ((if s then ['-'] else []) ++ (whole ++ (pointed fraction ++ ending))) =
      .ok (.float (.finite s m)) := by
  rw [number_parts s hwhole hfraction he hne, Binary64.ofDecimal, hm]
  rfl

theorem ofDigitChars_zeros (n x : Nat) :
    Nat.ofDigitChars 10 (natDigits x ++ NumberLayout.zeros n) 0 = x * 10 ^ n := by
  rw [Nat.ofDigitChars_append, ofDigitChars_natDigits, NumberLayout.zeros,
    Nat.ofDigitChars_replicate_zero, Nat.mul_comm]

theorem isWhole_append_zeros {x : Nat} (hx : x ≠ 0) (n : Nat) :
    IsWhole (natDigits x ++ NumberLayout.zeros n) where
  digits c hc := by
    rcases List.mem_append.1 hc with hc | hc
    · exact mem_natDigits hc
    · exact isDigit_of_mem_zeros hc
  nonempty := by simp [natDigits_ne_nil]
  zero h := by
    rw [head?_append_left (natDigits_ne_nil x)] at h
    exact (head?_natDigits hx h).elim

theorem isWhole_take {x : Nat} (hx : x ≠ 0) (n : Nat) : IsWhole ((natDigits x).take (n + 1)) where
  digits c hc := mem_natDigits (List.mem_of_mem_take hc)
  nonempty := by simp [natDigits_ne_nil]
  zero h := by
    rw [List.head?_take, if_neg (by omega)] at h
    exact (head?_natDigits hx h).elim

theorem mem_drop_natDigits {x n : Nat} : ∀ c ∈ (natDigits x).drop n, c.isDigit = true :=
  fun _ hc => mem_natDigits (List.mem_of_mem_drop hc)

section Layout

variable (l : NumberLayout) (s : Bool) {m : Magnitude} {x : Nat} {e : Int}

theorem number_integral (hm : m.isZero = false) (h : Magnitude.ofDecimal? ⟨x, e⟩ = some m)
    (he : 0 ≤ e) :
    number ((if s then ['-'] else []) ++
      (natDigits x ++ NumberLayout.zeros e.toNat ++ ['.', '0'])) = .ok (.float (.finite s m)) := by
  obtain ⟨hx, hmoderate⟩ := Magnitude.moderate_of_eq_some hm h
  have hfraction : ∀ c ∈ ['0'], c.isDigit = true := List.forall_mem_singleton.2 rfl
  refine number_of_parts s (isWhole_append_zeros hx e.toNat) hfraction .nil (by decide) ?_
  have hzeros : NumberLayout.zeros e.toNat ++ ['0'] = NumberLayout.zeros (e.toNat + 1) :=
    List.replicate_succ'.symm
  have hexp : (0 : Int) - (['0'].length : Nat) = e - (e.toNat + 1 : Nat) := by
    rw [List.length_singleton]
    omega
  rw [List.append_assoc, hzeros, ofDigitChars_zeros, hexp,
    Magnitude.ofDecimal?_shift hx hmoderate
      (.of_exponent (by dsimp only; omega) (by dsimp only; omega)), h]

theorem number_divided (hm : m.isZero = false) (h : Magnitude.ofDecimal? ⟨x, e⟩ = some m)
    (he : e < 0) (hlead : 0 ≤ e + (natDigits x).length - 1) :
    number ((if s then ['-'] else []) ++
      ((natDigits x).take ((e + (natDigits x).length - 1).toNat + 1) ++
        '.' :: (natDigits x).drop ((e + (natDigits x).length - 1).toNat + 1))) =
      .ok (.float (.finite s m)) := by
  obtain ⟨hx, -⟩ := Magnitude.moderate_of_eq_some hm h
  generalize hn : (e + (natDigits x).length - 1).toNat = n
  have hlen : ((natDigits x).drop (n + 1)).length = (-e).toNat := by
    rw [List.length_drop]
    omega
  have hpointed : '.' :: (natDigits x).drop (n + 1) = pointed ((natDigits x).drop (n + 1)) ++ [] := by
    have hne : (natDigits x).drop (n + 1) ≠ [] := by
      rw [← List.length_pos_iff]
      omega
    rw [pointed, if_neg (by simpa using hne), List.append_nil]
  rw [hpointed]
  refine number_of_parts s (isWhole_take hx n) mem_drop_natDigits .nil ?_ ?_
  · rw [← hpointed]
    exact List.cons_ne_nil _ _
  · rw [List.take_append_drop, ofDigitChars_natDigits, hlen]
    have hexp : (0 : Int) - ((-e).toNat : Nat) = e := by omega
    rw [hexp, h]

theorem number_fractional (h : Magnitude.ofDecimal? ⟨x, e⟩ = some m)
    (hlead : e + (natDigits x).length - 1 < 0) :
    number ((if s then ['-'] else []) ++ ('0' :: '.' ::
      (NumberLayout.zeros (-(e + (natDigits x).length - 1) - 1).toNat ++ natDigits x))) =
      .ok (.float (.finite s m)) := by
  generalize hn : (-(e + (natDigits x).length - 1) - 1).toNat = n
  have hpointed : '.' :: (NumberLayout.zeros n ++ natDigits x) =
      pointed (NumberLayout.zeros n ++ natDigits x) ++ [] := by
    rw [pointed, if_neg (by simp [natDigits_ne_nil]), List.append_nil]
  have hdigits : ∀ c ∈ NumberLayout.zeros n ++ natDigits x, c.isDigit = true := by
    intro c hc
    rcases List.mem_append.1 hc with hc | hc
    · exact isDigit_of_mem_zeros hc
    · exact mem_natDigits hc
  rw [hpointed]
  refine number_of_parts s (isWhole_natDigits 0) hdigits .nil ?_ ?_
  · rw [← hpointed]
    exact List.cons_ne_nil _ _
  · have hvalue :
        Nat.ofDigitChars 10 (natDigits 0 ++ (NumberLayout.zeros n ++ natDigits x)) 0 = x := by
      rw [← List.append_assoc, Nat.ofDigitChars_append, ofDigitChars_zeros, Nat.zero_mul,
        ofDigitChars_natDigits]
    have hexp : (0 : Int) - ((NumberLayout.zeros n ++ natDigits x).length : Nat) = e := by
      rw [List.length_append, NumberLayout.zeros, List.length_replicate]
      omega
    rw [hvalue, hexp, h]

def fractionText (l : NumberLayout) (x : Nat) : List Char :=
  if ((natDigits x).drop 1).isEmpty then (if l.pointBeforeExponent then ['.', '0'] else [])
  else '.' :: (natDigits x).drop 1

theorem number_scientific (hm : m.isZero = false) (h : Magnitude.ofDecimal? ⟨x, e⟩ = some m) :
    number ((if s then ['-'] else []) ++ ((natDigits x).take 1 ++ (fractionText l x ++
      'e' :: l.exponentText (e + (natDigits x).length - 1)))) = .ok (.float (.finite s m)) := by
  obtain ⟨hx, hmoderate⟩ := Magnitude.moderate_of_eq_some hm h
  have hlen := List.length_drop (i := 1) (l := natDigits x)
  have hends := Ends.exponentText l (e + (natDigits x).length - 1)
  have hsplit := List.take_append_drop 1 (natDigits x)
  have hpos : 0 < (natDigits x).length := List.length_pos_iff.2 (natDigits_ne_nil x)
  by_cases hempty : (natDigits x).drop 1 = []
  · rw [hempty, List.append_nil] at hsplit
    rw [hempty, List.length_nil] at hlen
    have hlead : e + (natDigits x).length - 1 = e := by omega
    rw [hlead] at hends ⊢
    cases hpoint : l.pointBeforeExponent with
    | true =>
      have htext : fractionText l x = pointed ['0'] := by
        rw [fractionText, hempty, hpoint]
        rfl
      rw [htext]
      refine number_of_parts s (isWhole_take hx 0) (List.forall_mem_singleton.2 rfl) hends
        (by simp) ?_
      rw [hsplit]
      exact (congrArg (fun n => Magnitude.ofDecimal? ⟨n, e - 1⟩) (ofDigitChars_zeros 1 x)).trans
        ((Magnitude.ofDecimal?_shift hx hmoderate (hmoderate.ten hx)).trans h)
    | false =>
      have htext : fractionText l x = pointed [] := by
        rw [fractionText, hempty, hpoint]
        rfl
      rw [htext]
      refine number_of_parts s (isWhole_take hx 0) (by simp) hends (by simp) ?_
      rw [List.append_nil, hsplit, ofDigitChars_natDigits, List.length_nil,
        Int.natCast_zero, Int.sub_zero, h]
  · have htext : fractionText l x = pointed ((natDigits x).drop 1) := by
      rw [pointed, fractionText, if_neg (by simpa using hempty), if_neg (by simpa using hempty)]
    rw [htext]
    refine number_of_parts s (isWhole_take hx 0) mem_drop_natDigits hends (by simp) ?_
    have hexp : e + (natDigits x).length - 1 - (((natDigits x).drop 1).length : Nat) = e := by
      omega
    rw [List.take_append_drop, ofDigitChars_natDigits, hexp, h]

theorem number_magnitudeText (m : Magnitude) :
    number ((if s then ['-'] else []) ++ l.magnitudeText m) = .ok (.float (.finite s m)) := by
  cases hm : m.isZero with
  | true =>
    have htext : l.magnitudeText m = ['0', '.', '0'] := by
      rw [NumberLayout.magnitudeText, hm]
      rfl
    obtain rfl := Magnitude.isZero_iff.1 hm
    rw [htext]
    have hfraction : ∀ c ∈ ['0'], c.isDigit = true := List.forall_mem_singleton.2 rfl
    exact number_of_parts s (isWhole_natDigits 0) hfraction .nil (by decide) rfl
  | false =>
    have hread := Magnitude.ofDecimal?_shortest hm
    unfold NumberLayout.magnitudeText
    generalize m.shortest = d at hread
    obtain ⟨x, e⟩ := d
    rw [hm]
    dsimp only
    rw [if_neg (show ¬ false = true by decide)]
    by_cases hlayout : l.lowest ≤ e + (natDigits x).length - 1 ∧
      e + (natDigits x).length - 1 ≤ l.highest
    · rw [if_pos hlayout]
      by_cases he : 0 ≤ e
      · rw [if_pos he]
        exact number_integral s hm hread he
      · rw [if_neg he]
        by_cases hlead : 0 ≤ e + (natDigits x).length - 1
        · rw [if_pos hlead]
          exact number_divided s hm hread (by omega) hlead
        · rw [if_neg hlead]
          exact number_fractional s hread (by omega)
    · rw [if_neg hlayout, List.append_assoc]
      exact number_scientific l s hm hread

end Layout

def isNumberChar (c : Char) : Bool := c.isDigit || ['-', '+', '.', 'e'].contains c

theorem isNumberChar_of_isDigit {c : Char} (h : c.isDigit = true) : isNumberChar c = true := by
  rw [isNumberChar, h, Bool.true_or]

theorem isNumberChar_of_mem_natDigits {n : Nat} {c : Char} (h : c ∈ natDigits n) :
    isNumberChar c = true :=
  isNumberChar_of_isDigit (mem_natDigits h)

theorem isNumberChar_of_mem_zeros {n : Nat} {c : Char} (h : c ∈ NumberLayout.zeros n) :
    isNumberChar c = true :=
  isNumberChar_of_isDigit (isDigit_of_mem_zeros h)

theorem isWordChar_of_isNumberChar {c : Char} (h : isNumberChar c = true) :
    isWordChar c = true := by
  rw [isNumberChar, Bool.or_eq_true] at h
  rcases h with h | h
  · simp [isWordChar, Char.isAlphanum, h]
  · have hlist : ['-', '+', '.', 'e'].all isWordChar = true := by decide
    exact List.all_eq_true.1 hlist c (by simpa using h)

theorem isNumberChar_of_mem_exponentText {l : NumberLayout} {e : Int} {c : Char}
    (h : c ∈ l.exponentText e) : isNumberChar c = true := by
  rw [NumberLayout.exponentText] at h
  rcases List.mem_cons.1 h with rfl | h
  · split <;> rfl
  · rcases List.mem_append.1 h with h | h
    · exact isNumberChar_of_mem_zeros h
    · exact isNumberChar_of_mem_natDigits h

theorem isNumberChar_of_mem_magnitudeText {l : NumberLayout} {m : Magnitude} {c : Char}
    (h : c ∈ l.magnitudeText m) : isNumberChar c = true := by
  have hdigits : ∀ n, (∀ x ∈ natDigits n, isNumberChar x = true) := fun n x hx =>
    isNumberChar_of_mem_natDigits hx
  have htake : ∀ n k, ∀ x ∈ (natDigits n).take k, isNumberChar x = true := fun n k x hx =>
    hdigits n x (List.mem_of_mem_take hx)
  have hdrop : ∀ n k, ∀ x ∈ (natDigits n).drop k, isNumberChar x = true := fun n k x hx =>
    hdigits n x (List.mem_of_mem_drop hx)
  have hzeros : ∀ n, ∀ x ∈ NumberLayout.zeros n, isNumberChar x = true := fun n x hx =>
    isNumberChar_of_mem_zeros hx
  have hexp : ∀ e, ∀ x ∈ l.exponentText e, isNumberChar x = true := fun e x hx =>
    isNumberChar_of_mem_exponentText hx
  have hpoint : isNumberChar '.' = true := by decide
  have hzero : isNumberChar '0' = true := by decide
  have hmark : isNumberChar 'e' = true := by decide
  revert c
  change ∀ c ∈ l.magnitudeText m, isNumberChar c = true
  unfold NumberLayout.magnitudeText
  dsimp only
  split
  · exact List.forall_mem_cons.2 ⟨hzero, List.forall_mem_cons.2
      ⟨hpoint, List.forall_mem_singleton.2 hzero⟩⟩
  split
  · split
    · simp only [List.forall_mem_append, List.forall_mem_cons]
      exact ⟨⟨hdigits _, hzeros _⟩, hpoint, hzero, List.forall_mem_nil _⟩
    split
    · simp only [List.forall_mem_append, List.forall_mem_cons]
      exact ⟨htake _ _, hpoint, hdrop _ _⟩
    · simp only [List.forall_mem_append, List.forall_mem_cons]
      exact ⟨hzero, hpoint, hzeros _, hdigits _⟩
  · simp only [List.forall_mem_append, List.forall_mem_cons]
    refine ⟨⟨htake _ _, ?_⟩, hmark, hexp _⟩
    split
    · split
      · exact List.forall_mem_cons.2 ⟨hpoint, List.forall_mem_singleton.2 hzero⟩
      · exact List.forall_mem_nil _
    · exact List.forall_mem_cons.2 ⟨hpoint, hdrop _ _⟩

/-- A number is none of the words, and neither is what is a number but for its length. -/
theorem word_eq_number {cs : List Char} (h : number cs ≠ .error .malformed) :
    word cs = number cs := by
  unfold word
  split
  case h_7 => rfl
  all_goals
    rename_i hcs
    have hchars := congrArg String.toList hcs
    rw [String.toList_ofList] at hchars
    rw [hchars] at h
    exact absurd rfl h

theorem word_of_number {cs : List Char} {j : Json} (h : number cs = .ok j) : word cs = .ok j :=
  (word_eq_number (by simp [h])).trans h

theorem word_intDigits {n : Int} (h : (natDigits n.natAbs).length ≤ Numeral.digitLimit) :
    word (intDigits n) = .ok (.int n) :=
  word_of_number (number_whole n h)

theorem word_longDigits {n : Int} (h : Numeral.digitLimit < (natDigits n.natAbs).length) :
    word (intDigits n) = .error .longNumber := by
  rw [word_eq_number (by simp [number_long n h]), number_long n h]

theorem word_magnitudeText (l : NumberLayout) (s : Bool) (m : Magnitude) :
    word ((if s then ['-'] else []) ++ l.magnitudeText m) = .ok (.float (.finite s m)) :=
  word_of_number (number_magnitudeText l s m)

end Json.Token

end Runbook
