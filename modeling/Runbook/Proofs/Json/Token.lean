import Runbook.Json.Writing
import Runbook.Proofs.Json.Number

namespace Runbook.Json.Token

variable {c : Char} {cs rest more : List Char}

section Quoted

open Style

theorem hexValue?_hexDigit {n : Nat} (h : n < 16) : hexValue? (hexDigit n) = some n := by
  have hall : ∀ n < 16, hexValue? (hexDigit n) = some n := by decide
  exact hall n h

def unitDigits (n : Nat) : List Char :=
  [hexDigit (n / 4096 % 16), hexDigit (n / 256 % 16), hexDigit (n / 16 % 16), hexDigit (n % 16)]

theorem unitEscape_eq (n : Nat) : unitEscape n = '\\' :: 'u' :: unitDigits n := rfl

theorem unit?_unitDigits {n : Nat} (h : n < 0x10000) (rest : List Char) :
    unit? (unitDigits n ++ rest) = some (n, rest) := by
  have hvalue : ((n / 4096 % 16 * 16 + n / 256 % 16) * 16 + n / 16 % 16) * 16 + n % 16 = n := by
    omega
  simp only [unitDigits, List.cons_append, List.nil_append]
  rw [unit?, hexValue?_hexDigit (by omega), hexValue?_hexDigit (by omega),
    hexValue?_hexDigit (by omega), hexValue?_hexDigit (by omega)]
  dsimp only
  rw [hvalue]

theorem escapedUnit?_pair {high low : Nat} (hhigh : unit? cs = some (high, '\\' :: 'u' :: more))
    (hfirst : 0xD800 ≤ high ∧ high < 0xDC00) (hlow : unit? more = some (low, rest))
    (hsecond : 0xDC00 ≤ low ∧ low < 0xE000) :
    escapedUnit? cs =
      some (Char.ofNat (0x10000 + (high - 0xD800) * 0x400 + (low - 0xDC00)), rest) := by
  simp only [escapedUnit?, hhigh, hfirst, hlow, hsecond, and_self, if_true]

theorem escapedUnit?_single {n : Nat} (h : unit? cs = some (n, rest))
    (hfirst : ¬ (0xD800 ≤ n ∧ n < 0xDC00)) (hsecond : ¬ (0xDC00 ≤ n ∧ n < 0xE000)) :
    escapedUnit? cs = some (Char.ofNat n, rest) := by
  simp only [escapedUnit?, h, hfirst, hsecond, if_false]

theorem ofNat_toNat_add (c : Char) (h : 0x10000 ≤ c.toNat) :
    Char.ofNat (0x10000 + (0xD800 + (c.toNat - 0x10000) / 0x400 - 0xD800) * 0x400 +
      (0xDC00 + (c.toNat - 0x10000) % 0x400 - 0xDC00)) = c := by
  have hsum : 0x10000 + (0xD800 + (c.toNat - 0x10000) / 0x400 - 0xD800) * 0x400 +
      (0xDC00 + (c.toNat - 0x10000) % 0x400 - 0xDC00) = c.toNat := by
    omega
  rw [hsum, Char.ofNat_toNat]

theorem escaped?_unitEscapes (c : Char) : ∃ cs, unitEscapes c.toNat = '\\' :: cs ∧
    ∀ rest, escaped? (cs ++ rest) = some (c, rest) := by
  have hvalid : c.toNat < 0xD800 ∨ 0xDFFF < c.toNat ∧ c.toNat < 0x110000 := c.valid
  have hunit (cs : List Char) : escaped? ('u' :: cs) = escapedUnit? cs := rfl
  rw [unitEscapes]
  split
  · rename_i hsmall
    refine ⟨'u' :: unitDigits c.toNat, rfl, fun rest => ?_⟩
    rw [List.cons_append, hunit, escapedUnit?_single (unit?_unitDigits hsmall rest) (by omega)
      (by omega), Char.ofNat_toNat]
  · rename_i hlarge
    have hhigh : 0xD800 ≤ 0xD800 + (c.toNat - 0x10000) / 0x400 ∧
        0xD800 + (c.toNat - 0x10000) / 0x400 < 0xDC00 := by omega
    have hlow : 0xDC00 ≤ 0xDC00 + (c.toNat - 0x10000) % 0x400 ∧
        0xDC00 + (c.toNat - 0x10000) % 0x400 < 0xE000 := by omega
    have hpair := ofNat_toNat_add c (by omega)
    generalize 0xD800 + (c.toNat - 0x10000) / 0x400 = high at hhigh hpair
    generalize 0xDC00 + (c.toNat - 0x10000) % 0x400 = low at hlow hpair
    refine ⟨'u' :: (unitDigits high ++ unitEscape low), rfl, fun rest => ?_⟩
    rw [unitEscape_eq, List.cons_append, List.append_assoc, hunit, List.cons_append,
      List.cons_append, escapedUnit?_pair (unit?_unitDigits (by omega) _) hhigh
        (unit?_unitDigits (by omega) rest) hlow, hpair]

theorem charText_cases (asciiOnly : Bool) (c : Char) :
    charText asciiOnly c = [c] ∧ c ≠ '"' ∧ c ≠ '\\' ∧ ¬ c.toNat < 0x20 ∨
      ∃ cs, charText asciiOnly c = '\\' :: cs ∧ ∀ rest, escaped? (cs ++ rest) = some (c, rest) := by
  by_cases hquote : c = '"'
  · exact .inr ⟨['"'], by rw [hquote]; rfl, fun rest => by rw [hquote]; rfl⟩
  by_cases hslash : c = '\\'
  · exact .inr ⟨['\\'], by rw [hslash]; rfl, fun rest => by rw [hslash]; rfl⟩
  by_cases hline : c = '\n'
  · exact .inr ⟨['n'], by rw [hline]; rfl, fun rest => by rw [hline]; rfl⟩
  by_cases hreturn : c = '\r'
  · exact .inr ⟨['r'], by rw [hreturn]; rfl, fun rest => by rw [hreturn]; rfl⟩
  by_cases htab : c = '\t'
  · exact .inr ⟨['t'], by rw [htab]; rfl, fun rest => by rw [htab]; rfl⟩
  by_cases hback : c = '\x08'
  · exact .inr ⟨['b'], by rw [hback]; rfl, fun rest => by rw [hback]; rfl⟩
  by_cases hfeed : c = '\x0c'
  · exact .inr ⟨['f'], by rw [hfeed]; rfl, fun rest => by rw [hfeed]; rfl⟩
  rw [charText, if_neg hquote, if_neg hslash, if_neg hline, if_neg hreturn, if_neg htab,
    if_neg hback, if_neg hfeed]
  split
  · exact .inr (escaped?_unitEscapes c)
  · rename_i hplain
    rw [Bool.or_eq_true, not_or, decide_eq_true_iff] at hplain
    exact .inl ⟨rfl, hquote, hslash, hplain.1⟩

theorem quoted?_charText (asciiOnly : Bool) (c : Char) (rest : List Char) (fuel : Nat) :
    quoted? (fuel + 1) (charText asciiOnly c ++ rest) =
      (quoted? fuel rest).map fun r => (c :: r.1, r.2) := by
  rcases charText_cases asciiOnly c with ⟨htext, hquote, hslash, hplain⟩ | ⟨cs, htext, hread⟩
  · rw [htext, List.singleton_append, quoted?, if_neg hplain]
    · exact hquote
    · exact hslash
  · rw [htext, List.cons_append, quoted?, hread]

theorem quoted?_flatMap (asciiOnly : Bool) {fuel : Nat} (h : cs.length < fuel) (rest : List Char) :
    quoted? fuel (cs.flatMap (charText asciiOnly) ++ '"' :: rest) = some (cs, rest) := by
  induction cs generalizing fuel with
  | nil =>
    obtain ⟨fuel, rfl⟩ := Nat.exists_eq_add_of_lt h
    rfl
  | cons c cs ih =>
    obtain ⟨fuel, rfl⟩ : ∃ n, fuel = n + 1 := ⟨fuel - 1, by omega⟩
    rw [List.flatMap_cons, List.append_assoc, quoted?_charText,
      ih (by simpa using h), Option.map_some]

theorem length_le_flatMap_charText (asciiOnly : Bool) (cs : List Char) :
    cs.length ≤ (cs.flatMap (charText asciiOnly)).length := by
  induction cs with
  | nil => exact Nat.le_refl _
  | cons c cs ih =>
    have hpos : 0 < (charText asciiOnly c).length := by
      rcases charText_cases asciiOnly c with ⟨htext, -⟩ | ⟨cs, htext, -⟩ <;> simp [htext]
    rw [List.flatMap_cons, List.length_append, List.length_cons]
    omega

end Quoted

section Append

theorem unit?_append {n : Nat} (h : unit? cs = some (n, rest)) (more : List Char) :
    rest.length < cs.length ∧ unit? (cs ++ more) = some (n, rest ++ more) := by
  match cs, h with
  | a :: b :: c :: d :: cs, h =>
    simp only [List.cons_append, unit?] at h ⊢
    split at h
    · obtain ⟨rfl, rfl⟩ := h
      exact ⟨by simp only [List.length_cons]; omega, rfl⟩
    · cases h

theorem escapedUnit?_append (h : escapedUnit? cs = some (c, rest)) (more : List Char) :
    rest.length < cs.length ∧ escapedUnit? (cs ++ more) = some (c, rest ++ more) := by
  rw [escapedUnit?] at h
  split at h
  · cases h
  · rename_i high after hhigh
    obtain ⟨hlength, happend⟩ := unit?_append hhigh more
    split at h
    · rename_i hfirst
      split at h
      · rename_i behind
        split at h
        · rename_i low rest' hlow
          obtain ⟨hlength', happend'⟩ := unit?_append hlow more
          split at h
          · rename_i hsecond
            obtain ⟨rfl, rfl⟩ := Prod.mk.inj (Option.some.inj h)
            simp only [List.length_cons] at hlength
            exact ⟨by omega, escapedUnit?_pair happend hfirst happend' hsecond⟩
          · cases h
        · cases h
      · cases h
    · rename_i hfirst
      split at h
      · cases h
      · rename_i hsecond
        obtain ⟨rfl, rfl⟩ := Prod.mk.inj (Option.some.inj h)
        exact ⟨hlength, escapedUnit?_single happend hfirst hsecond⟩

theorem escaped?_append (h : escaped? cs = some (c, rest)) (more : List Char) :
    rest.length < cs.length ∧ escaped? (cs ++ more) = some (c, rest ++ more) := by
  unfold escaped? at h
  split at h
  case h_9 cs' =>
    obtain ⟨hlength, happend⟩ := escapedUnit?_append h more
    exact ⟨by rw [List.length_cons]; omega, happend⟩
  case h_10 => cases h
  all_goals
    cases h
    exact ⟨Nat.lt_succ_self _, rfl⟩

/-- What is read up to a closing quote does not hang on what comes behind it. -/
theorem quoted?_append {fuel fuel' : Nat} {s : List Char} (h : quoted? fuel cs = some (s, rest))
    (hfuel : fuel ≤ fuel') (more : List Char) :
    rest.length < cs.length ∧ quoted? fuel' (cs ++ more) = some (s, rest ++ more) := by
  -- Fuel that is enough for the text is enough for it with more behind.
  induction fuel generalizing fuel' cs s with
  | zero => cases h
  | succ fuel ih =>
    obtain ⟨fuel', rfl⟩ : ∃ n, fuel' = n + 1 := ⟨fuel' - 1, by omega⟩
    have hle : fuel ≤ fuel' := by omega
    unfold quoted? at h
    split at h
    · cases h
    · cases h
    · cases h
      exact ⟨Nat.lt_succ_self _, rfl⟩
    · rename_i fuel₀ cs' hn
      obtain rfl := Nat.succ.inj hn
      split at h
      · rename_i c' rest' hescaped
        obtain ⟨hlength, happend⟩ := escaped?_append hescaped more
        obtain ⟨⟨s', tail⟩, htail, hs⟩ := Option.map_eq_some_iff.1 h
        cases hs
        obtain ⟨hlength', happend'⟩ := ih htail hle
        refine ⟨by rw [List.length_cons]; omega, ?_⟩
        rw [List.cons_append, quoted?, happend]
        dsimp only
        rw [happend', Option.map_some]
      · cases h
    · rename_i fuel₀ c' cs' hquote hslash hn
      obtain rfl := Nat.succ.inj hn
      split at h
      · cases h
      · rename_i hplain
        obtain ⟨⟨s', tail⟩, htail, hs⟩ := Option.map_eq_some_iff.1 h
        cases hs
        obtain ⟨hlength', happend'⟩ := ih htail hle
        refine ⟨by rw [List.length_cons]; omega, ?_⟩
        rw [List.cons_append, quoted?, if_neg hplain, happend', Option.map_some]
        · exact hquote
        · exact hslash

end Append

section Cutting

/-- The token at the front of a text and what comes behind it. A blank is no token, and there is
nothing behind what is wrong. -/
def lex (c : Char) (cs : List Char) : List Token × Option (List Char) :=
  if isSpace c then ([], some cs)
  else if c = '[' then ([openList], some cs)
  else if c = ']' then ([closeList], some cs)
  else if c = '{' then ([openMap], some cs)
  else if c = '}' then ([closeMap], some cs)
  else if c = ',' then ([comma], some cs)
  else if c = ':' then ([colon], some cs)
  else if c = '"' then
    match quoted? (cs.length + 1) cs with
    | some (s, rest) => ([text (String.ofList s)], some rest)
    | none => ([bad .malformed], none)
  else if isWordChar c then
    match word (c :: cs.takeWhile isWordChar) with
    | .ok j => ([atom j], some (cs.dropWhile isWordChar))
    | .error f => ([bad f], none)
  else ([bad .malformed], none)

theorem scan_cons (fuel : Nat) (c : Char) (cs : List Char) :
    scan (fuel + 1) (c :: cs) = (lex c cs).1 ++ (lex c cs).2.elim [] (scan fuel) := by
  rw [scan, lex]
  iterate 7
    split
    · rfl
  split
  · cases quoted? (cs.length + 1) cs <;> rfl
  split
  · cases word (c :: cs.takeWhile isWordChar) <;> rfl
  · rfl

def EndsWord (cs : List Char) : Prop := ∀ c, cs.head? = some c → isWordChar c = false

theorem endsWord_nil : EndsWord [] := fun _ h => by cases h

theorem endsWord_cons (h : isWordChar c = false) : EndsWord (c :: cs) :=
  fun _ hc => Option.some.inj hc ▸ h

theorem takeWhile_append (hmore : EndsWord more) (cs : List Char) :
    (cs ++ more).takeWhile isWordChar = cs.takeWhile isWordChar ∧
      (cs ++ more).dropWhile isWordChar = cs.dropWhile isWordChar ++ more := by
  induction cs with
  | nil =>
    cases more with
    | nil => exact ⟨rfl, rfl⟩
    | cons c more => simp [hmore c rfl]
  | cons c cs ih =>
    rw [List.cons_append, List.takeWhile_cons, List.takeWhile_cons, List.dropWhile_cons,
      List.dropWhile_cons]
    cases isWordChar c with
    | true => exact ⟨congrArg (c :: ·) ih.1, ih.2⟩
    | false => exact ⟨rfl, rfl⟩

/-- A token at the front does not hang on what comes behind it. -/
theorem lex_append (h : (lex c cs).2 = some rest) (hmore : EndsWord more) :
    rest.length ≤ cs.length ∧ lex c (cs ++ more) = ((lex c cs).1, some (rest ++ more)) := by
  unfold lex at h ⊢
  split at h
  · rename_i hspace
    cases h
    exact ⟨Nat.le_refl _, by rw [if_pos hspace, if_pos hspace]⟩
  rename_i hspace
  rw [if_neg hspace, if_neg hspace]
  -- The marks of one character; only quoted texts and words go on.
  iterate 6
    split at h
    · rename_i hmark
      cases h
      exact ⟨Nat.le_refl _, by rw [if_pos hmark, if_pos hmark]⟩
    rename_i hmark
    rw [if_neg hmark, if_neg hmark]
    clear hmark
  split at h
  · rename_i hquote
    rw [if_pos hquote, if_pos hquote]
    split at h
    · rename_i s rest' hread
      cases h
      have hfuel : cs.length + 1 ≤ (cs ++ more).length + 1 := by simp
      obtain ⟨hlength, happend⟩ := quoted?_append hread hfuel more
      rw [happend]
      exact ⟨hlength.le, rfl⟩
    · cases h
  rename_i hquote
  rw [if_neg hquote, if_neg hquote]
  split at h
  · rename_i hword
    obtain ⟨htake, hdrop⟩ := takeWhile_append hmore cs
    rw [if_pos hword, if_pos hword, htake, hdrop]
    split at h
    · rename_i j hread
      cases h
      exact ⟨(List.dropWhile_sublist _).length_le, rfl⟩
    · cases h
  · cases h

theorem lex_bad (h : (lex c cs).2 = none) : ∃ f, bad f ∈ (lex c cs).1 := by
  unfold lex at h ⊢
  iterate 7
    split at h
    · cases h
    rename_i hmark
    rw [if_neg hmark]
    clear hmark
  split at h
  · rename_i hquote
    rw [if_pos hquote]
    cases hread : quoted? (cs.length + 1) cs with
    | some r =>
      rw [hread] at h
      cases h
    | none => exact ⟨.malformed, List.mem_singleton.2 rfl⟩
  rename_i hquote
  rw [if_neg hquote]
  split at h
  · rename_i hword
    rw [if_pos hword]
    cases hread : word (c :: cs.takeWhile isWordChar) with
    | ok j =>
      rw [hread] at h
      cases h
    | error f => exact ⟨f, List.mem_singleton.2 rfl⟩
  · rename_i hword
    rw [if_neg hword]
    exact ⟨.malformed, List.mem_singleton.2 rfl⟩

theorem scan_enough {fuel fuel' : Nat} (h : cs.length < fuel) (h' : cs.length < fuel') :
    scan fuel cs = scan fuel' cs := by
  induction fuel generalizing fuel' cs with
  | zero => cases h
  | succ fuel ih =>
    obtain ⟨fuel', rfl⟩ : ∃ n, fuel' = n + 1 := ⟨fuel' - 1, by omega⟩
    cases cs with
    | nil => rfl
    | cons c cs =>
      rw [scan_cons, scan_cons]
      cases hrest : (lex c cs).2 with
      | none => rfl
      | some rest =>
        have hle := (lex_append hrest endsWord_nil).1
        rw [List.length_cons] at h h'
        have hscan : scan fuel rest = scan fuel' rest := ih (by omega) (by omega)
        rw [Option.elim_some, Option.elim_some, hscan]

theorem ofText_cons (c : Char) (cs : List Char) :
    ofText (c :: cs) = (lex c cs).1 ++ (lex c cs).2.elim [] ofText := by
  rw [ofText, List.length_cons, scan_cons]
  cases hrest : (lex c cs).2 with
  | none => rfl
  | some rest =>
    have hle := (lex_append hrest endsWord_nil).1
    rw [Option.elim_some, Option.elim_some, ofText, scan_enough (by omega) (Nat.lt_succ_self _)]

/-- A text without a mistake is cut in the same way whatever comes behind it, if that does not go on
with the last word of it. -/
theorem ofText_append (h : ∀ f, bad f ∉ ofText cs) (hmore : EndsWord more) :
    ofText (cs ++ more) = ofText cs ++ ofText more := by
  induction hn : cs.length using Nat.strongRecOn generalizing cs with
  | ind n ih =>
    cases cs with
    | nil => rfl
    | cons c cs =>
      rw [List.cons_append]
      rw [ofText_cons] at h ⊢
      cases hrest : (lex c cs).2 with
      | none =>
        obtain ⟨f, hf⟩ := lex_bad hrest
        exact (h f (List.mem_append_left _ hf)).elim
      | some rest =>
        rw [hrest, Option.elim_some] at h
        obtain ⟨hle, happend⟩ := lex_append hrest hmore
        have htail := ih rest.length (by rw [← hn, List.length_cons]; omega)
          (fun f hf => h f (List.mem_append_right _ hf)) rfl
        rw [happend, ofText_cons, hrest, Option.elim_some, Option.elim_some, htail,
          List.append_assoc]

theorem ofText_spaces (h : ∀ c ∈ cs, isSpace c = true) (more : List Char) :
    ofText (cs ++ more) = ofText more := by
  induction cs with
  | nil => rfl
  | cons c cs ih =>
    obtain ⟨hc, hcs⟩ := List.forall_mem_cons.1 h
    rw [List.cons_append, ofText_cons, lex, if_pos hc]
    exact ih hcs

end Cutting

end Runbook.Json.Token
