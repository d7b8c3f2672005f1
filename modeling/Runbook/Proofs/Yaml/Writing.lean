import Runbook.Yaml.Writing
import Mathlib.Data.List.SplitBy

namespace Runbook.Yaml

def Displays (cs : List Char) : Prop := cs.all isDisplayable = true

theorem displays_append {cs ds : List Char} : Displays (cs ++ ds) ↔ Displays cs ∧ Displays ds := by
  rw [Displays, List.all_append, Bool.and_eq_true, Displays, Displays]

theorem displays_reverse {cs : List Char} : Displays cs.reverse ↔ Displays cs := by
  rw [Displays, List.all_reverse, Displays]

theorem displays_cons {c : Char} {cs : List Char} :
    Displays (c :: cs) ↔ isDisplayable c = true ∧ Displays cs := by
  rw [Displays, List.all_cons, Bool.and_eq_true, Displays]

theorem displays_flatten {css : List (List Char)} :
    Displays css.flatten ↔ ∀ cs ∈ css, Displays cs := by
  rw [Displays, List.all_flatten, List.all_eq_true]
  rfl

theorem displays_replicate (n : Nat) {c : Char} (h : isDisplayable c = true) :
    Displays (List.replicate n c) :=
  List.all_eq_true.2 fun _ hx => (List.eq_of_mem_replicate hx).symm ▸ h

namespace Sheet

variable {s : Sheet} {cs : List Char}

def Shown (s : Sheet) : Prop := Displays s.text

theorem Shown.put (h : s.Shown) (hcs : Displays cs) : (s.put cs).Shown :=
  displays_append.2 ⟨displays_reverse.2 hcs, h⟩

theorem Shown.mark (h : s.Shown) (m : String) (hm : Displays m.toList)
    (separate spaced indented : Bool) : (s.mark m separate spaced indented).Shown := by
  unfold Sheet.mark
  split
  · exact h.put hm
  · exact h.put (displays_cons.2 ⟨rfl, hm⟩)

theorem Shown.lineBreak {c : Char} (h : s.Shown) (hc : isDisplayable c = true) :
    (s.lineBreak c).Shown := displays_cons.2 ⟨hc, h⟩

theorem Shown.newLine (h : s.Shown) (indent : Nat) : (s.newLine indent).Shown := by
  have hpad {s : Sheet} (hs : s.Shown) :
      Shown (if s.column < indent then
        { s.put (List.replicate (indent - s.column) ' ') with spaced := true } else s) := by
    split
    · exact hs.put (displays_replicate _ rfl)
    · exact hs
  unfold Sheet.newLine
  refine hpad ?_
  split
  · exact h.lineBreak rfl
  · exact h

theorem Shown.inText (h : s.Shown) : s.inText.Shown := h

theorem Shown.lineBreaks (h : s.Shown) (hcs : Displays cs) :
    (cs.foldl (fun s c => s.lineBreak c) s).Shown := by
  induction cs generalizing s with
  | nil => exact h
  | cons c cs ih =>
    obtain ⟨hc, hrest⟩ := displays_cons.1 hcs
    exact ih (h.lineBreak hc) hrest

end Sheet

namespace ScalarForm

open Sheet (Shown)

variable {s : Sheet} {cs : List Char} {split : Bool} {indent : Nat}

theorem shown_plainRuns {rs : List (List Char)} (h : s.Shown) (hrs : ∀ run ∈ rs, Displays run) :
    (plainRuns split indent rs s).Shown := by
  induction rs generalizing s with
  | nil => exact h
  | cons run rs ih =>
    obtain ⟨hrun, hrs⟩ := List.forall_mem_cons.1 hrs
    refine ih ?_ hrs
    split
    · exact (h.newLine indent).inText
    · exact h.put hrun

theorem displays_splitBy {r : Char → Char → Bool} (h : Displays cs) :
    ∀ run ∈ cs.splitBy r, Displays run := by
  rw [← displays_flatten, List.flatten_splitBy]
  exact h

theorem shown_writePlain (h : s.Shown) (hcs : Displays cs) :
    (writePlain split indent cs s).Shown := by
  unfold writePlain
  split
  · exact h
  · refine shown_plainRuns (Sheet.Shown.inText ?_) (displays_splitBy hcs)
    split
    · exact h
    · exact h.put rfl

theorem shown_quotedBreaks {run : List Char} (h : s.Shown) (hrun : Displays run) :
    (quotedBreaks indent run s).Shown := by
  unfold quotedBreaks
  refine (Sheet.Shown.lineBreaks ?_ hrun).newLine indent
  split
  · exact h.lineBreak rfl
  · exact h

theorem shown_singleRuns {rs : List (List Char)} {first : Bool} (h : s.Shown)
    (hrs : ∀ run ∈ rs, Displays run) : (singleRuns split indent first rs s).Shown := by
  induction rs generalizing s first with
  | nil => exact h
  | cons run rs ih =>
    obtain ⟨hrun, hrs⟩ := List.forall_mem_cons.1 hrs
    refine ih ?_ hrs
    split
    · exact shown_quotedBreaks h hrun
    · split
      · exact h.newLine indent
      · refine h.put (List.all_eq_true.2 fun c hc => ?_)
        obtain ⟨d, hd, hcd⟩ := List.mem_flatMap.1 hc
        split at hcd
        · have hquote : c = '\'' := by simpa using hcd
          rw [hquote]
          rfl
        · obtain rfl := List.mem_singleton.1 hcd
          exact List.all_eq_true.1 hrun c hd

theorem shown_writeSingle (h : s.Shown) (hcs : Displays cs) :
    (writeSingle split indent cs s).Shown := by
  have hopened : (s.mark "'" true false false).Shown := h.mark "'" rfl _ _ _
  exact (shown_singleRuns hopened (displays_splitBy hcs)).mark "'" rfl _ _ _

theorem isDisplayable_of_needsEscape {c : Char} (h : needsEscape c = false) :
    isDisplayable c = true := by
  simp only [needsEscape, isDisplayable, Bool.or_eq_false_iff, Bool.not_eq_false', Bool.or_eq_true,
    Bool.and_eq_true, decide_eq_true_eq, bne_iff_ne, beq_iff_eq] at h ⊢
  obtain ⟨hspecial, hrange⟩ := h
  have hmark : c.toNat ≠ 0xFEFF := by
    intro hc
    have heq : c = '\uFEFF' := Char.toNat_inj.1 hc
    rw [heq] at hspecial
    exact absurd hspecial (by decide)
  omega

theorem displays_toDigits (n : Nat) : Displays ((Nat.toDigits 16 n).map Char.toUpper) := by
  have hdigit : ∀ k < 16, isDisplayable (Nat.digitChar k).toUpper = true := by decide
  induction n using Nat.strongRecOn with
  | ind n ih =>
    rw [Nat.toDigits_eq_if (by omega)]
    split
    · rename_i hn
      exact displays_cons.2 ⟨hdigit n hn, rfl⟩
    · rw [List.map_append]
      refine displays_append.2 ⟨ih (n / 16) (by omega), ?_⟩
      exact displays_cons.2 ⟨hdigit _ (Nat.mod_lt _ (by omega)), rfl⟩

theorem displays_escapeCode (n : Nat) : Displays (escapeCode n) := by
  have hhex (width : Nat) : Displays (hexText width n) :=
    displays_append.2 ⟨displays_replicate _ rfl, displays_toDigits n⟩
  unfold escapeCode
  split
  · exact displays_cons.2 ⟨rfl, displays_cons.2 ⟨rfl, hhex _⟩⟩
  · split <;> exact displays_cons.2 ⟨rfl, displays_cons.2 ⟨rfl, hhex _⟩⟩

theorem displays_escapeText (c : Char) : Displays (escapeText c) := by
  unfold escapeText
  split
  · rename_i c' e he
    have hshort : ∀ p ∈ shortEscapes, isDisplayable p.2 = true := by decide
    exact displays_cons.2 ⟨rfl, displays_cons.2 ⟨hshort _ (List.mem_of_find?_eq_some he), rfl⟩⟩
  · exact displays_escapeCode _

theorem shown_breakDouble {next : Option Char} (h : s.Shown) :
    (breakDouble indent next s).Shown := by
  have hslash : Displays ['\\'] := rfl
  have hbroken : ((s.put ['\\']).newLine indent).inText.Shown :=
    ((h.put hslash).newLine indent).inText
  unfold breakDouble
  split
  · exact hbroken.put hslash
  · exact hbroken

theorem shown_putEscape {inside : Bool} {next : Option Char} (h : s.Shown) (hcs : Displays cs) :
    (putEscape inside indent next cs s).Shown := by
  unfold putEscape
  dsimp only
  split
  · exact shown_breakDouble (h.put hcs)
  · exact h.put hcs

theorem shown_doubleFrom {pending : List Char} {started : Bool} (h : s.Shown)
    (hpending : Displays pending) : (doubleFrom split indent pending started cs s).Shown := by
  induction pending, started, cs, s using doubleFrom.induct split indent with
  | case1 pending started s => exact h.put (displays_reverse.2 hpending)
  | case2 pending started s c cs ih =>
    rw [doubleFrom]
    exact ih (shown_putEscape (h.put (displays_reverse.2 hpending)) (displays_escapeCode _)) rfl
  | case3 pending started c cs s hmark inside hc ih =>
    rw [doubleFrom, if_pos hc]
    · exact ih (shown_putEscape (h.put (displays_reverse.2 hpending)) (displays_escapeText c)) rfl
    · exact hmark
  | case4 pending started c cs s hmark inside hc hbreak ih =>
    have hshown := isDisplayable_of_needsEscape (Bool.eq_false_iff.2 hc)
    rw [doubleFrom, if_neg hc, if_pos hbreak]
    · exact ih (shown_breakDouble (h.put (displays_reverse.2 hpending)))
        (displays_cons.2 ⟨hshown, rfl⟩)
    · exact hmark
  | case5 pending started c cs s hmark inside hc hbreak ih =>
    have hshown := isDisplayable_of_needsEscape (Bool.eq_false_iff.2 hc)
    rw [doubleFrom, if_neg hc, if_neg hbreak]
    · exact ih h (displays_cons.2 ⟨hshown, hpending⟩)
    · exact hmark

theorem shown_writeDouble (h : s.Shown) : (writeDouble split indent cs s).Shown := by
  have hnone : Displays [] := rfl
  have hopened : (s.mark "\"" true false false).Shown := h.mark "\"" rfl _ _ _
  exact (shown_doubleFrom hopened hnone).mark "\"" rfl _ _ _

theorem displays_blockMarks (cs : List Char) : Displays ("|" ++ blockMarks cs).toList := by
  unfold blockMarks
  dsimp only
  split <;> split <;> try rfl
  all_goals split <;> rfl

theorem shown_literalLines {rs : List (List Char)} (h : s.Shown)
    (hrs : ∀ run ∈ rs, Displays run) : (literalLines indent rs s).Shown := by
  induction rs generalizing s with
  | nil => exact h
  | cons run rs ih =>
    obtain ⟨hrun, hrs⟩ := List.forall_mem_cons.1 hrs
    refine ih ?_ hrs
    split
    · exact h.lineBreaks hrun
    · exact displays_append.2 ⟨displays_reverse.2 hrun, h.newLine indent⟩

theorem shown_writeLiteral (h : s.Shown) (hcs : Displays cs) :
    (writeLiteral indent cs s).Shown := by
  refine shown_literalLines (Sheet.Shown.lineBreak ?_ rfl) (displays_splitBy hcs)
  exact h.mark _ (displays_blockMarks cs) _ _ _

/-- Only in double quotes stands a text that has something to escape. -/
theorem displays_of_style {f : ScalarForm} {isKey : Bool} (h : f.style isKey ≠ .double) :
    Displays f.text.toList := by
  have hplain : (Shape.ofText f.text.toList).plain = true → Displays f.text.toList := by
    intro hp
    simp only [Shape.ofText, Bool.or_eq_true, Bool.not_eq_true', Bool.or_eq_false_iff,
      Bool.not_eq_false'] at hp
    rcases hp with hempty | hp
    · rw [List.isEmpty_iff.1 hempty]
      rfl
    · exact hp.1.1.2.1
  have hsingle : (Shape.ofText f.text.toList).singleQuoted = true → Displays f.text.toList := by
    intro hp
    simp only [Shape.ofText, Bool.not_eq_true', Bool.or_eq_false_iff, Bool.not_eq_false'] at hp
    exact hp.2.1
  have hblock : (Shape.ofText f.text.toList).block = true → Displays f.text.toList := by
    intro hp
    simp only [Shape.ofText, Bool.and_eq_true, Bool.not_eq_true', Bool.or_eq_false_iff,
      Bool.not_eq_false'] at hp
    exact hp.2.2.1
  unfold style at h
  dsimp only at h
  split at h
  · rename_i hp
    exact hplain (Bool.and_eq_true_iff.1 hp).2
  · split at h
    · rename_i hp
      exact hblock (Bool.and_eq_true_iff.1 hp).2
    · split at h
      · rename_i hp
        simp only [Bool.and_eq_true] at hp
        exact hsingle hp.1.2
      · exact (h rfl).elim

theorem displays_tagText (t : Tag) : Displays (tagText t).toList := by
  cases t <;> rfl

theorem shown_write (f : ScalarForm) (isKey : Bool) (h : s.Shown) :
    (f.write isKey indent s).Shown := by
  have htagged : Shown (if f.needsTag (f.style isKey) then s.mark (tagText f.tag) true false false
      else s) := by
    split
    · exact h.mark _ (displays_tagText f.tag) _ _ _
    · exact h
  unfold write
  dsimp only
  cases hstyle : f.style isKey with
  | double => exact shown_writeDouble (hstyle ▸ htagged)
  | plain =>
    exact shown_writePlain (hstyle ▸ htagged) (displays_of_style (by rw [hstyle]; decide))
  | single =>
    exact shown_writeSingle (hstyle ▸ htagged) (displays_of_style (by rw [hstyle]; decide))
  | literal =>
    exact shown_writeLiteral (hstyle ▸ htagged) (displays_of_style (by rw [hstyle]; decide))

end ScalarForm

namespace Writing

open Sheet (Shown)

theorem shown_emptyList {s : Sheet} (h : s.Shown) : (emptyList s).Shown :=
  (h.mark "[" rfl _ _ _).mark "]" rfl _ _ _

theorem shown_emptyMap {s : Sheet} (h : s.Shown) : (emptyMap s).Shown :=
  (h.mark "\x7b" rfl _ _ _).mark "\x7d" rfl _ _ _

theorem shown_scalar (place : Place) (indent : Option Nat) (v : Value) {s : Sheet}
    (h : s.Shown) : (scalar place indent v s).Shown := by
  unfold scalar
  cases ScalarForm.ofValue? v with
  | none => exact h
  | some f => exact ScalarForm.shown_write f _ h

theorem shown_key (indent : Nat) {k : Value} {s : Sheet} (h : s.Shown)
    (hk : ∀ place {s : Sheet}, s.Shown → (node place (some indent) k s).Shown) :
    Shown (if isSimpleKey k then (node asKey (some indent) k s).mark ":" false false false
      else
        ((node inMap (some indent) k (s.mark "?" true false true)).newLine indent).mark
          ":" true false true) := by
  split
  · exact (hk asKey h).mark ":" rfl _ _ _
  · have hmark : (s.mark "?" true false true).Shown := h.mark "?" rfl _ _ _
    exact ((hk inMap hmark).newLine indent).mark ":" rfl _ _ _

mutual

theorem shown_node (place : Place) (indent : Option Nat) (v : Value) {s : Sheet} (h : s.Shown) :
    (node place indent v s).Shown := by
  cases v with
  | list vs =>
    rw [node]
    split
    · exact shown_emptyList h
    · exact shown_items _ vs h
  | tuple vs =>
    rw [node]
    split
    · exact shown_emptyList h
    · exact shown_items _ vs h
  | map es =>
    rw [node]
    split
    · exact shown_emptyMap h
    · exact shown_entries _ es h
  | set vs =>
    have hset : (s.mark "!!set" true false false).Shown := h.mark "!!set" rfl _ _ _
    rw [node]
    split
    · exact shown_emptyMap hset
    · exact shown_members _ vs hset
  | _ => exact shown_scalar place indent _ h

theorem shown_items (indent : Nat) (vs : List Value) {s : Sheet} (h : s.Shown) :
    (items indent vs s).Shown := by
  cases vs with
  | nil => exact h
  | cons v vs =>
    have hdash : ((s.newLine indent).mark "-" true false true).Shown :=
      (h.newLine indent).mark "-" rfl _ _ _
    rw [items]
    exact shown_items indent vs (shown_node _ _ v hdash)

theorem shown_entries (indent : Nat) (es : List (Value × Value)) {s : Sheet} (h : s.Shown) :
    (entries indent es s).Shown := by
  cases es with
  | nil => exact h
  | cons e es =>
    obtain ⟨k, v⟩ := e
    rw [entries]
    have hkey := shown_key indent (h.newLine indent) fun place _ hs => shown_node place _ k hs
    exact shown_entries indent es (shown_node inMap _ v hkey)

theorem shown_members (indent : Nat) (vs : List Value) {s : Sheet} (h : s.Shown) :
    (members indent vs s).Shown := by
  cases vs with
  | nil => exact h
  | cons v vs =>
    rw [members]
    have hkey := shown_key indent (h.newLine indent) fun place _ hs => shown_node place _ v hs
    exact shown_members indent vs (shown_scalar inMap _ .null hkey)

end

end Writing

/-- What is written can be displayed as it is, line by line. -/
theorem displays_of_write? {v : Value} {text : String} (h : write? v = some text) :
    Displays text.toList := by
  have hempty : Sheet.empty.Shown := rfl
  unfold write? at h
  split at h
  · cases h
    rw [String.toList_ofList, displays_reverse]
    exact (Writing.shown_node _ none v hempty).newLine 0
  · cases h

end Runbook.Yaml
