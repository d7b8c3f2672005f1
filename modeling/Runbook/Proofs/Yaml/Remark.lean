import Runbook.Yaml.Node

namespace Runbook.Yaml

/-- Lines of which each is blank or a remark. -/
inductive Remarks : List Char → Prop where
  | nil : Remarks []
  | blank {cs : List Char} (h : Remarks cs) : Remarks ('\n' :: cs)
  | remark {line cs : List Char} (hline : ∀ c ∈ line, isBreak c = false) (h : Remarks cs) :
      Remarks ('#' :: (line ++ '\n' :: cs))

theorem Remarks.append {cs ds : List Char} (h : Remarks cs) (hds : Remarks ds) :
    Remarks (cs ++ ds) := by
  induction h with
  | nil => exact hds
  | blank _ ih => exact .blank ih
  | @remark line cs hline _ ih =>
    have hremark := Remarks.remark hline ih
    rwa [List.cons_append, List.append_assoc]

theorem Remarks.eq_nil_or_append {cs : List Char} (h : Remarks cs) :
    cs = [] ∨ ∃ ds, cs = ds ++ ['\n'] := by
  induction h with
  | nil => exact .inl rfl
  | blank _ ih =>
    rcases ih with rfl | ⟨ds, rfl⟩
    · exact .inr ⟨[], rfl⟩
    · exact .inr ⟨'\n' :: ds, rfl⟩
  | @remark line cs _ _ ih =>
    rcases ih with rfl | ⟨ds, rfl⟩
    · exact .inr ⟨'#' :: line, rfl⟩
    · exact .inr ⟨'#' :: (line ++ '\n' :: ds), by simp⟩

namespace Cursor

variable {c : Cursor} {cs : List Char}

theorem rest_next (c : Cursor) : c.next.rest = c.rest.tail := by
  unfold next
  split
  · rename_i h
    rw [h]
    rfl
  · rename_i ch rest h
    rw [h]
    split
    · rfl
    · split <;> rfl

theorem rest_skip (n : Nat) (c : Cursor) : (c.skip n).rest = c.rest.drop n := by
  induction n generalizing c with
  | zero => rfl
  | succ n ih => rw [skip, ih, rest_next, List.drop_tail]

theorem rest_skipWhile (p : Char → Bool) (c : Cursor) :
    (c.skipWhile p).rest = c.rest.dropWhile p := by
  calc (c.skipWhile p).rest = c.rest.drop (c.rest.takeWhile p).length := rest_skip _ c
    _ = (c.rest.takeWhile p ++ c.rest.dropWhile p).drop (c.rest.takeWhile p).length := by
      rw [List.takeWhile_append_dropWhile]
    _ = c.rest.dropWhile p := List.drop_left

theorem skipRemark_blank (h : c.rest = '\n' :: cs) : c.skipRemark.rest = '\n' :: cs := by
  have hblank : (c.skipWhile (· == ' ')).rest = '\n' :: cs := by
    rw [rest_skipWhile, h]
    rfl
  rw [skipRemark, here, hblank]
  exact hblank

theorem skipRemark_remark {line : List Char} (hline : ∀ ch ∈ line, isBreak ch = false)
    (h : c.rest = '#' :: (line ++ '\n' :: cs)) : c.skipRemark.rest = '\n' :: cs := by
  have hmark : (c.skipWhile (· == ' ')).rest = '#' :: (line ++ '\n' :: cs) := by
    rw [rest_skipWhile, h]
    rfl
  have hend : ('#' :: (line ++ '\n' :: cs)).dropWhile (!isBreak ·) = '\n' :: cs := by
    rw [List.dropWhile_cons_of_pos (by rfl)]
    rw [List.dropWhile_append_of_pos fun ch hch => by rw [hline ch hch]; rfl]
    rfl
  rw [skipRemark, here, hmark, List.head?_cons, if_pos (by rfl), rest_skipWhile, hmark, hend]

theorem lineBreak?_newline (h : c.rest = '\n' :: cs) : c.lineBreak? = some ('\n', c.next) := by
  rw [lineBreak?, h]
  rfl

end Cursor

namespace Lexer

theorem skipBlank_line {cs : List Char} {s : Lexer}
    (hskip : s.cursor.skipRemark.rest = '\n' :: cs) (n : Nat) :
    ∃ c allowed, s.skipBlank (n + 1) =
      ({ s with cursor := c, keyAllowed := allowed } : Lexer).skipBlank n ∧ c.rest = cs := by
  have hbreak : (s.move s.cursor.skipRemark).cursor.lineBreak? =
      some ('\n', s.cursor.skipRemark.next) := Cursor.lineBreak?_newline hskip
  have hnext : s.cursor.skipRemark.next.rest = cs := by
    rw [Cursor.rest_next, hskip]
    rfl
  rw [skipBlank]
  simp only [hbreak]
  exact ⟨s.cursor.skipRemark.next, s.keyAllowed || s.level == 0, rfl, hnext⟩

theorem skipBlank_end {s : Lexer} (hs : s.cursor.rest = []) (n : Nat) :
    ∃ c allowed, s.skipBlank (n + 1) = { s with cursor := c, keyAllowed := allowed } ∧
      c.rest = [] := by
  have hblank : (s.cursor.skipWhile (· == ' ')).rest = [] := by
    rw [Cursor.rest_skipWhile, hs]
    rfl
  have hrest : s.cursor.skipRemark.rest = [] := by
    rw [Cursor.skipRemark, Cursor.here, hblank]
    exact hblank
  have hend : (s.move s.cursor.skipRemark).cursor.lineBreak? = none := by
    rw [move, Cursor.lineBreak?, hrest]
  rw [skipBlank]
  simp only [hend]
  exact ⟨s.cursor.skipRemark, s.keyAllowed, rfl, hrest⟩

theorem skipBlank_remarks {cs : List Char} (h : Remarks cs) {n : Nat} (hn : cs.length < n)
    {s : Lexer} (hs : s.cursor.rest = cs) :
    ∃ c allowed, s.skipBlank n = { s with cursor := c, keyAllowed := allowed } ∧ c.rest = [] := by
  induction h generalizing n s with
  | nil =>
    obtain ⟨n, rfl⟩ := Nat.exists_eq_succ_of_ne_zero (Nat.ne_of_gt hn)
    exact skipBlank_end hs n
  | blank _ ih =>
    obtain ⟨n, rfl⟩ := Nat.exists_eq_succ_of_ne_zero (Nat.ne_of_gt (Nat.zero_lt_of_lt hn))
    obtain ⟨c, allowed, hline, hc⟩ := skipBlank_line (Cursor.skipRemark_blank hs) n
    obtain ⟨c', allowed', hrun, hend⟩ := @ih n (by simpa using hn)
      { s with cursor := c, keyAllowed := allowed } hc
    exact ⟨c', allowed', hline.trans hrun, hend⟩
  | remark hremark _ ih =>
    obtain ⟨n, rfl⟩ := Nat.exists_eq_succ_of_ne_zero (Nat.ne_of_gt (Nat.zero_lt_of_lt hn))
    obtain ⟨c, allowed, hline, hc⟩ := skipBlank_line (Cursor.skipRemark_remark hremark hs) n
    simp only [List.length_cons, List.length_append] at hn
    obtain ⟨c', allowed', hrun, hend⟩ := @ih n (by omega)
      { s with cursor := c, keyAllowed := allowed } hc
    exact ⟨c', allowed', hline.trans hrun, hend⟩

end Lexer

theorem Remarks.head?_ne {cs : List Char} (h : Remarks cs) : cs.head? ≠ some '\uFEFF' := by
  cases h <;> simp

theorem Token.ofText_remarks {cs : List Char} (h : Remarks cs) (hcs : cs.all isAllowed = true) :
    Token.ofText cs = [] := by
  have hnext : (Lexer.ofText cs).toNext = (Lexer.ofText cs).skipBlank (cs.length + 1) := by
    have hmark : ((Lexer.ofText cs).cursor.index == 0 &&
        (Lexer.ofText cs).cursor.here == some '\uFEFF') = false := by
      simpa [Lexer.ofText, Cursor.ofText, Cursor.here] using h.head?_ne
    rw [Lexer.toNext, hmark]
    rfl
  obtain ⟨c, allowed, hskip, hc⟩ :=
    Lexer.skipBlank_remarks h (Nat.lt_succ_self _) (s := Lexer.ofText cs) rfl
  have hhere : c.here = none := by rw [Cursor.here, hc]; rfl
  have hstep : (Lexer.ofText cs).step =
      .ok ({ Lexer.ofText cs with cursor := c, keyAllowed := allowed }, true) := by
    rw [Lexer.step, hnext, hskip]
    simp [Lexer.dropStale, Lexer.ofText, Lexer.unwind, Lexer.closeBlocks, hhere,
      Lexer.dropCandidate, Except.map]
  rw [Token.ofText, if_pos hcs, Lexer.run, hstep]
  rfl

theorem Node.ofText_remarks {cs : List Char} (h : Remarks cs) (hcs : cs.all isAllowed = true) :
    Node.ofText cs = .ok none := by
  rw [Node.ofText, Token.ofText_remarks h hcs]
  rfl

end Runbook.Yaml
