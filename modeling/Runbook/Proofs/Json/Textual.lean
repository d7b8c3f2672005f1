import Mathlib.Data.List.Induction
import Runbook.Json.Reading
import Runbook.Proofs.Dict
import Runbook.Proofs.Json.Writing

namespace Runbook

theorem Text.decimalValue?_lt {c : Char} {d : Nat} (h : Text.decimalValue? c = some d) : d < 10 := by
  rw [Text.decimalValue?] at h
  split at h
  · rename_i hc
    obtain rfl := Option.some.inj h
    have hle : c.toNat ≤ 57 := hc.2
    omega
  · obtain ⟨z, hz, rfl⟩ := Option.map_eq_some_iff.1 h
    have hrange := List.find?_some hz
    simp only [Bool.and_eq_true, decide_eq_true_eq] at hrange
    omega

namespace Numeral

theorem digitsValue_lt {ds : List Nat} (h : ∀ d ∈ ds, d < 10) : digitsValue ds < 10 ^ ds.length := by
  induction ds using List.reverseRecOn with
  | nil => decide
  | append_singleton ds d ih =>
    rw [List.forall_mem_append] at h
    have hd : d < 10 := h.2 d (List.mem_singleton_self d)
    have hds := ih h.1
    have hvalue : digitsValue (ds ++ [d]) = 10 * digitsValue ds + d := by simp [digitsValue]
    rw [hvalue, List.length_append, List.length_singleton, Nat.pow_succ]
    omega

theorem mapM_decimalValue? {cs : List Char} {ds : List Nat}
    (h : cs.mapM Text.decimalValue? = some ds) : ds.length = cs.length ∧ ∀ d ∈ ds, d < 10 := by
  induction cs generalizing ds with
  | nil =>
    obtain rfl := Option.some.inj h
    exact ⟨rfl, List.forall_mem_nil _⟩
  | cons c cs ih =>
    rw [List.mapM_cons] at h
    obtain ⟨d, hd, h⟩ := Option.bind_eq_some_iff.1 h
    obtain ⟨ds', hds, h⟩ := Option.bind_eq_some_iff.1 h
    obtain rfl := Option.some.inj h
    obtain ⟨hlength, hlt⟩ := ih hds
    exact ⟨congrArg Nat.succ hlength, List.forall_mem_cons.2 ⟨Text.decimalValue?_lt hd, hlt⟩⟩

theorem length_digits? {cs : List Char} {n : Nat} (h : digits? cs = some n) :
    (natDigits n).length ≤ digitLimit := by
  rw [digits?] at h
  split at h
  · cases h
  · rename_i hlimit
    simp only [Bool.or_eq_true, List.isEmpty_iff, decide_eq_true_eq, not_or, Nat.not_lt] at hlimit
    obtain ⟨ds, hds, rfl⟩ := Option.map_eq_some_iff.1 h
    obtain ⟨hlength, hlt⟩ := mapM_decimalValue? hds
    have hpos : 0 < cs.length := List.length_pos_iff.2 hlimit.1
    have hdigits : (natDigits (digitsValue ds)).length ≤ cs.length := by
      rw [natDigits, Nat.length_toDigits_le_iff (by decide) hpos, ← hlength]
      exact digitsValue_lt hlt
    exact hdigits.trans hlimit.2

theorem natAbs_signed (negative : Bool) (n : Nat) : (signed negative n).natAbs = n := by
  cases negative <;> simp [signed]

end Numeral

namespace Json

/-- Documents whose whole numbers all have a text. -/
inductive Textual : Json → Prop
  | null : Textual .null
  | bool (b : Bool) : Textual (.bool b)
  | int {n : Int} (h : (natDigits n.natAbs).length ≤ Numeral.digitLimit) : Textual (.int n)
  | float (x : Binary64) : Textual (.float x)
  | str (s : String) : Textual (.str s)
  | list {js : List Json} (h : ∀ j ∈ js, Textual j) : Textual (.list js)
  | map {es : List (String × Json)} (h : ∀ e ∈ es, Textual e.2) : Textual (.map es)

theorem Readable.textual {d : Nat} {j : Json} (h : j.Readable d) : j.Textual := by
  induction h with
  | null => exact .null
  | bool b => exact .bool b
  | int h => exact .int h
  | float s m => exact .float _
  | str s => exact .str s
  | emptyList => exact .list (List.forall_mem_nil _)
  | emptyMap => exact .map (List.forall_mem_nil _)
  | list h ih => exact .list ih
  | map hkeys h ih => exact .map ih

namespace Token

variable {cs : List Char} {j : Json}

theorem textual_number (h : number cs = .ok j) : j.Textual := by
  unfold number at h
  split at h
  rename_i negative body _
  dsimp only at h
  split at h
  · cases h
  · rw [signedWhole] at h
    split at h
    · rename_i n hn
      obtain rfl := Except.ok.inj h
      exact .int (by rw [Numeral.natAbs_signed]; exact Numeral.length_digits? hn)
    · cases h
  · split at h
    · cases h
    · split at h
      · cases h
      · obtain rfl := Except.ok.inj h
        exact .float _

theorem textual_word (h : word cs = .ok j) : j.Textual := by
  unfold word at h
  split at h
  · exact Except.ok.inj h ▸ .null
  · exact Except.ok.inj h ▸ .bool true
  · exact Except.ok.inj h ▸ .bool false
  · exact Except.ok.inj h ▸ .float _
  · exact Except.ok.inj h ▸ .float _
  · exact Except.ok.inj h ▸ .float _
  · exact textual_number h

theorem textual_lex {c : Char} (h : .atom j ∈ (lex c cs).1) : j.Textual := by
  unfold lex at h
  iterate 7
    split at h
    · simp at h
  split at h
  · split at h <;> simp at h
  split at h
  · split at h
    · rename_i hword
      obtain rfl : j = _ := by simpa using h
      exact textual_word hword
    · simp at h
  · simp at h

theorem textual_scan {fuel : Nat} (h : .atom j ∈ scan fuel cs) : j.Textual := by
  induction fuel generalizing cs with
  | zero => simp [scan] at h
  | succ fuel ih =>
    cases cs with
    | nil => simp [scan] at h
    | cons c cs =>
      rw [scan_cons] at h
      rcases List.mem_append.1 h with hlex | hrest
      · exact textual_lex hlex
      · cases hcs : (lex c cs).2 with
        | none => simp [hcs] at hrest
        | some rest =>
          rw [hcs] at hrest
          exact ih hrest

end Token

def Frame.contents : Frame → List Json
  | .list items => items
  | .map entries => entries.values
  | .entry entries _ => entries.values

namespace Progress

/-- All that was read so far has a text. -/
structure Textual (p : Progress) : Prop where
  stack : ∀ f ∈ p.stack, ∀ j ∈ f.contents, j.Textual
  result : p.result.Textual

variable {stack : List Frame} {j : Json} {p q : Progress} {t : Token} {depth : Option Nat}

theorem textual_give (hstack : ∀ f ∈ stack, ∀ j ∈ f.contents, j.Textual) (hj : j.Textual)
    (h : give stack j = .ok p) : p.Textual := by
  unfold give at h
  split at h
  · cases h
    exact ⟨List.forall_mem_nil _, hj⟩
  · cases h
    obtain ⟨hitems, hrest⟩ := List.forall_mem_cons.1 hstack
    exact ⟨List.forall_mem_cons.2 ⟨List.forall_mem_cons.2 ⟨hj, hitems⟩, hrest⟩, .null⟩
  · cases h
    obtain ⟨hentries, hrest⟩ := List.forall_mem_cons.1 hstack
    refine ⟨List.forall_mem_cons.2 ⟨fun j' hj' => ?_, hrest⟩, .null⟩
    rcases Dict.mem_values_put hj' with rfl | hold
    · exact hj
    · exact hentries j' hold
  · cases h

theorem textual_close (hstack : ∀ f ∈ stack, ∀ j ∈ f.contents, j.Textual)
    (h : close stack = .ok p) : p.Textual := by
  unfold close at h
  split at h
  · obtain ⟨hitems, hrest⟩ := List.forall_mem_cons.1 hstack
    exact textual_give hrest (.list fun j hj => hitems j (List.mem_reverse.1 hj)) h
  · obtain ⟨hentries, hrest⟩ := List.forall_mem_cons.1 hstack
    exact textual_give hrest (.map fun e he => hentries e.2 (List.mem_map_of_mem he)) h
  · cases h

theorem textual_begin (hp : p.Textual) (ht : ∀ j, t = .atom j → j.Textual)
    (h : begin p t = .ok q) : q.Textual := by
  unfold begin at h
  split at h
  · cases h
    exact ⟨List.forall_mem_cons.2 ⟨List.forall_mem_nil _, hp.stack⟩, hp.result⟩
  · cases h
    exact ⟨List.forall_mem_cons.2 ⟨List.forall_mem_nil _, hp.stack⟩, hp.result⟩
  · exact textual_give hp.stack (.str _) h
  · exact textual_give hp.stack (ht _ rfl) h
  · cases h
  · cases h

theorem textual_key (hp : p.Textual) (h : key p t = .ok q) : q.Textual := by
  unfold key at h
  split at h
  · split at h
    · rename_i hstack
      cases h
      obtain ⟨hentries, hrest⟩ := List.forall_mem_cons.1 (hstack ▸ hp.stack)
      exact ⟨List.forall_mem_cons.2 ⟨hentries, hrest⟩, hp.result⟩
    · cases h
  · cases h

theorem of_within {next : Except ReadFault Progress} (h : within depth p next = .ok q) :
    next = .ok q := by
  rw [within] at h
  split at h
  · exact h
  · cases h

theorem textual_step (hp : p.Textual) (ht : ∀ j, t = .atom j → j.Textual)
    (h : step depth p t = .ok q) : q.Textual := by
  unfold step at h
  split at h
  · exact textual_close hp.stack h
  · exact textual_begin hp ht (of_within h)
  · exact textual_begin hp ht (of_within h)
  · exact textual_close hp.stack h
  · exact textual_key hp (of_within h)
  · exact textual_key hp h
  · cases h
    exact ⟨hp.stack, hp.result⟩
  · split at h <;> cases h <;> exact ⟨hp.stack, hp.result⟩
  · split at h
    · exact textual_close hp.stack h
    · cases h
  · split at h
    · exact textual_close hp.stack h
    · cases h
  · cases h

theorem textual_foldlM {ts : List Token} (hp : p.Textual) (ht : ∀ j, .atom j ∈ ts → j.Textual)
    (h : ts.foldlM (step depth) p = .ok q) : q.Textual := by
  induction ts generalizing p with
  | nil => exact Except.ok.inj h ▸ hp
  | cons t ts ih =>
    rw [List.foldlM_cons] at h
    cases hstep : step depth p t with
    | error f =>
      rw [hstep] at h
      cases h
    | ok p' =>
      rw [hstep] at h
      refine ih (textual_step hp (fun j hj => ht j ?_) hstep)
        (fun j hj => ht j (List.mem_cons_of_mem t hj)) h
      exact hj ▸ List.mem_cons_self

end Progress

theorem textual_read {depth : Option Nat} {cs : List Char} {j : Json}
    (h : read depth cs = .ok j) : j.Textual := by
  rw [read, ofTokens] at h
  split at h
  · rename_i p hp
    have htext : p.Textual := Progress.textual_foldlM
      ⟨List.forall_mem_nil _, .null⟩ (fun j hj => Token.textual_scan hj) hp
    rw [Progress.finish] at h
    split at h
    · exact Except.ok.inj h ▸ htext.result
    · cases h
  · cases h

end Json

end Runbook
