import Runbook.Text.Utf8

namespace Runbook.Text.Utf8

variable {α : Type} (onBad : List α) (char : Char → α)

theorem toNat_byte {n : Nat} (h : n < 256) : (byte n).toNat = n :=
  UInt8.toNat_ofNat_of_lt' h

theorem decodeWith_single {n : Nat} (h : n < 0x80) (bs : List UInt8) :
    decodeWith onBad char none (byte n :: bs) =
      char (Char.ofNat n) :: decodeWith onBad char none bs := by
  have hn : (byte n).toNat = n := toNat_byte (by omega)
  rw [decodeWith]
  simp only [hn, h, if_true]

theorem decodeWith_first {n needed low high : Nat} (hn : n < 256) (h : 0x80 ≤ n)
    (ht : tail? n = some (needed, low, high)) (bs : List UInt8) :
    decodeWith onBad char none (byte n :: bs) =
      decodeWith onBad char (some ⟨firstBits needed n, needed, low, high⟩) bs := by
  have hbyte : (byte n).toNat = n := toNat_byte hn
  have hnot : ¬ n < 0x80 := by omega
  rw [decodeWith]
  simp only [hbyte, hnot, if_false, ht]

theorem decodeWith_next {n number low high : Nat} (needed : Nat) (hn : n < 256) (hlow : low ≤ n)
    (hhigh : n ≤ high) (bs : List UInt8) :
    decodeWith onBad char (some ⟨number, needed + 2, low, high⟩) (byte n :: bs) =
      decodeWith onBad char (some ⟨number * 0x40 + (n - 0x80), needed + 1, 0x80, 0xBF⟩) bs := by
  have hbyte : (byte n).toNat = n := toNat_byte hn
  rw [decodeWith]
  simp [hbyte, hlow, hhigh]

theorem decodeWith_last {n number low high : Nat} (hn : n < 256) (hlow : low ≤ n)
    (hhigh : n ≤ high) (bs : List UInt8) :
    decodeWith onBad char (some ⟨number, 1, low, high⟩) (byte n :: bs) =
      char (Char.ofNat (number * 0x40 + (n - 0x80))) :: decodeWith onBad char none bs := by
  have hbyte : (byte n).toNat = n := toNat_byte hn
  rw [decodeWith]
  simp [hbyte, hlow, hhigh]

theorem firstBits_one (b : Nat) : firstBits 1 b = b - 0xC0 := rfl

theorem firstBits_two (b : Nat) : firstBits 2 b = b - 0xE0 := rfl

theorem firstBits_three (b : Nat) : firstBits 3 b = b - 0xF0 := rfl

theorem tail?_two {n : Nat} (hlow : 0x80 ≤ n) (hhigh : n < 0x800) :
    tail? (0xC0 + n / 0x40) = some (1, 0x80, 0xBF) := by
  unfold tail?
  rw [if_pos (by simp; omega)]

/-- The range of the second of three bytes leaves out the shorter forms and the surrogates. -/
theorem tail?_three {n : Nat} (hlow : 0x800 ≤ n) (hhigh : n < 0x10000)
    (hvalid : n < 0xD800 ∨ 0xDFFF < n) :
    ∃ low high, tail? (0xE0 + n / 0x1000) = some (2, low, high) ∧
      low ≤ 0x80 + n / 0x40 % 0x40 ∧ 0x80 + n / 0x40 % 0x40 ≤ high := by
  unfold tail?
  rw [if_neg (by simp; omega)]
  by_cases hE0 : n / 0x1000 = 0
  · rw [if_pos (by simp; omega)]
    exact ⟨_, _, rfl, by omega, by omega⟩
  rw [if_neg (by simp; omega)]
  by_cases hED : n / 0x1000 = 0xD
  · rw [if_pos (by simp; omega)]
    exact ⟨_, _, rfl, by omega, by omega⟩
  rw [if_neg (by simp; omega), if_pos (by simp; omega)]
  exact ⟨_, _, rfl, by omega, by omega⟩

/-- The range of the second of four bytes leaves out the shorter forms and what is past the last
character. -/
theorem tail?_four {n : Nat} (hlow : 0x10000 ≤ n) (hhigh : n < 0x110000) :
    ∃ low high, tail? (0xF0 + n / 0x40000) = some (3, low, high) ∧
      low ≤ 0x80 + n / 0x1000 % 0x40 ∧ 0x80 + n / 0x1000 % 0x40 ≤ high := by
  unfold tail?
  rw [if_neg (by simp; omega), if_neg (by simp; omega), if_neg (by simp; omega),
    if_neg (by simp; omega)]
  by_cases hF0 : n / 0x40000 = 0
  · rw [if_pos (by simp; omega)]
    exact ⟨_, _, rfl, by omega, by omega⟩
  rw [if_neg (by simp; omega)]
  by_cases hF4 : n / 0x40000 = 4
  · rw [if_neg (by simp; omega), if_pos (by simp; omega)]
    exact ⟨_, _, rfl, by omega, by omega⟩
  rw [if_pos (by simp; omega)]
  exact ⟨_, _, rfl, by omega, by omega⟩

theorem decodeWith_encodeChar (c : Char) (bs : List UInt8) :
    decodeWith onBad char none (encodeChar c ++ bs) = char c :: decodeWith onBad char none bs := by
  have hc : Char.ofNat c.toNat = c := Char.ofNat_toNat c
  have hvalid : c.toNat < 0xD800 ∨ 0xDFFF < c.toNat ∧ c.toNat < 0x110000 := c.valid
  unfold encodeChar
  generalize c.toNat = n at hc hvalid ⊢
  dsimp only
  -- One case for each number of bytes; the low bits of the bytes make up the number again.
  split
  · rename_i h
    rw [List.singleton_append, decodeWith_single onBad char h, hc]
  split
  · have ht := tail?_two (n := n) (by omega) (by omega)
    have hnum : firstBits 1 (0xC0 + n / 0x40) * 0x40 + (0x80 + n % 0x40 - 0x80) = n := by
      rw [firstBits_one]
      omega
    simp only [List.cons_append, List.nil_append]
    rw [decodeWith_first onBad char (by omega) (by omega) ht,
      decodeWith_last onBad char (by omega) (by omega) (by omega), hnum, hc]
  split
  · obtain ⟨low, high, ht, hlow, hhigh⟩ := tail?_three (n := n) (by omega) (by omega) (by omega)
    have hnum : (firstBits 2 (0xE0 + n / 0x1000) * 0x40 + (0x80 + n / 0x40 % 0x40 - 0x80)) * 0x40 +
        (0x80 + n % 0x40 - 0x80) = n := by
      rw [firstBits_two]
      omega
    simp only [List.cons_append, List.nil_append]
    rw [decodeWith_first onBad char (by omega) (by omega) ht,
      decodeWith_next onBad char 0 (by omega) hlow hhigh,
      decodeWith_last onBad char (by omega) (by omega) (by omega), hnum, hc]
  · obtain ⟨low, high, ht, hlow, hhigh⟩ := tail?_four (n := n) (by omega) (by omega)
    have hnum : ((firstBits 3 (0xF0 + n / 0x40000) * 0x40 +
        (0x80 + n / 0x1000 % 0x40 - 0x80)) * 0x40 + (0x80 + n / 0x40 % 0x40 - 0x80)) * 0x40 +
        (0x80 + n % 0x40 - 0x80) = n := by
      rw [firstBits_three]
      omega
    simp only [List.cons_append, List.nil_append]
    rw [decodeWith_first onBad char (by omega) (by omega) ht,
      decodeWith_next onBad char 1 (by omega) hlow hhigh,
      decodeWith_next onBad char 0 (by omega) (by omega) (by omega),
      decodeWith_last onBad char (by omega) (by omega) (by omega), hnum, hc]

theorem decodeWith_encode (cs : List Char) (bs : List UInt8) :
    decodeWith onBad char none (encode cs ++ bs) = cs.map char ++ decodeWith onBad char none bs := by
  induction cs with
  | nil => rfl
  | cons c cs ih =>
    rw [encode, List.flatMap_cons, List.append_assoc, decodeWith_encodeChar, List.map_cons]
    exact congrArg _ ih

/-- What a byte at the start of a character comes to does not hang on what is behind it. -/
theorem decodeWith_cons_none (b : UInt8) : ∃ out next, ∀ bs,
    decodeWith onBad char none (b :: bs) = out ++ decodeWith onBad char next bs := by
  by_cases hb : b.toNat < 0x80
  · exact ⟨[char (Char.ofNat b.toNat)], none, fun bs => by simp [decodeWith, hb]⟩
  cases ht : tail? b.toNat with
  | none => exact ⟨onBad, none, fun bs => by simp [decodeWith, hb, ht]⟩
  | some t =>
    obtain ⟨needed, low, high⟩ := t
    exact ⟨[], some ⟨firstBits needed b.toNat, needed, low, high⟩, fun bs => by
      simp [decodeWith, hb, ht]⟩

theorem decodeWith_cons (pending : Option Pending) (b : UInt8) : ∃ out next, ∀ bs,
    decodeWith onBad char pending (b :: bs) = out ++ decodeWith onBad char next bs := by
  obtain ⟨out, next, hfresh⟩ := decodeWith_cons_none onBad char b
  cases pending with
  | none => exact ⟨out, next, hfresh⟩
  | some p =>
    by_cases hrange : (p.low ≤ b.toNat && b.toNat ≤ p.high) = true
    · by_cases hlast : p.needed ≤ 1
      · exact ⟨[char (Char.ofNat (p.number * 0x40 + (b.toNat - 0x80)))], none, fun bs => by
          simp [decodeWith, hrange, hlast]⟩
      · exact ⟨[], some ⟨p.number * 0x40 + (b.toNat - 0x80), p.needed - 1, 0x80, 0xBF⟩, fun bs => by
          simp [decodeWith, hrange, hlast]⟩
    · refine ⟨onBad ++ out, next, fun bs => ?_⟩
      rw [List.append_assoc, ← hfresh bs, decodeWith, decodeWith]
      simp [hrange]

/-- Bytes that are text are decoded in the same way whatever comes behind them. -/
theorem decodeWith_append {pending : Option Pending} {bs : List UInt8}
    (h : none ∉ decodeWith [none] some pending bs) (more : List UInt8) :
    decodeWith [none] some pending (bs ++ more) =
      decodeWith [none] some pending bs ++ decodeWith [none] some none more := by
  induction bs generalizing pending with
  | nil =>
    cases pending with
    | none => rfl
    | some p => exact (h List.mem_cons_self).elim
  | cons b bs ih =>
    obtain ⟨out, next, hcons⟩ := decodeWith_cons [none] some pending b
    rw [hcons, List.mem_append, not_or] at h
    rw [List.cons_append, hcons, hcons, ih h.2, List.append_assoc]

theorem mapM_id_map_some (cs : List Char) : (cs.map some).mapM id = some cs := by
  induction cs with
  | nil => rfl
  | cons c cs ih => rw [List.map_cons, List.mapM_cons, ih]; rfl

theorem eq_map_some_of_mapM_id {as : List (Option Char)} {cs : List Char}
    (h : as.mapM id = some cs) : as = cs.map some := by
  induction as generalizing cs with
  | nil =>
    obtain rfl := Option.some.inj h
    rfl
  | cons a as ih =>
    rw [List.mapM_cons] at h
    obtain ⟨c, hc, hrest⟩ := Option.bind_eq_some_iff.1 h
    obtain ⟨cs', hcs, hsome⟩ := Option.bind_eq_some_iff.1 hrest
    obtain rfl := Option.some.inj hsome
    rw [ih hcs, show a = some c from hc, List.map_cons]

theorem decode?_encode (cs : List Char) : decode? (encode cs) = some cs := by
  have hdecode := decodeWith_encode [none] some cs []
  rw [List.append_nil] at hdecode
  rw [decode?, hdecode]
  exact (congrArg _ (List.append_nil _)).trans (mapM_id_map_some cs)

theorem decode?_append {bs : List UInt8} {cs : List Char} (h : decode? bs = some cs)
    (ds : List Char) : decode? (bs ++ encode ds) = some (cs ++ ds) := by
  have hbytes := eq_map_some_of_mapM_id h
  have hdecode := decodeWith_encode [none] some ds []
  rw [List.append_nil] at hdecode
  rw [decode?, decodeWith_append (by simp [hbytes]), hbytes, hdecode, ← List.append_assoc,
    ← List.map_append]
  exact (congrArg _ (List.append_nil _)).trans (mapM_id_map_some (cs ++ ds))

end Runbook.Text.Utf8
