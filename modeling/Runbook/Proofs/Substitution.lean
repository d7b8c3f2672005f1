import Mathlib.Data.List.Forall2
import Mathlib.Data.List.TakeWhile
import Runbook.Reference

namespace Runbook

/-- A reference as it is written in a text: an expression between double braces, with blanks around
it. -/
@[ext]
structure Occurrence where
  left : List Char
  expr : List Char
  right : List Char
  blankLeft : ∀ c ∈ left, Text.isBlank c = true
  nonempty : expr ≠ []
  exprChars : ∀ c ∈ expr, Piece.isExprChar c = true
  blankRight : ∀ c ∈ right, Text.isBlank c = true

namespace Occurrence

variable {o o' : Occurrence} {a cs x y : List Char}

def name (o : Occurrence) : String := String.ofList o.expr

def body (o : Occurrence) : List Char := o.left ++ (o.expr ++ (o.right ++ ['}', '}']))

def chars (o : Occurrence) : List Char := '{' :: '{' :: o.body

theorem not_isExprChar {c : Char} (h : Text.isBlank c = true) : Piece.isExprChar c = false := by
  simp [Piece.isExprChar, h]

theorem not_isBlank {c : Char} (h : Piece.isExprChar c = true) : Text.isBlank c = false := by
  simp only [Piece.isExprChar, Bool.and_eq_true, Bool.not_eq_true'] at h
  exact h.2

theorem brace_not_mem_body (o : Occurrence) : '{' ∉ o.body := by
  have hblank : Text.isBlank '{' = false := by decide
  have hexpr : Piece.isExprChar '{' = false := by decide
  simp only [body, List.mem_append, not_or]
  refine ⟨fun h => ?_, fun h => ?_, fun h => ?_, by decide⟩
  · rw [o.blankLeft _ h] at hblank
    cases hblank
  · rw [o.exprChars _ h] at hexpr
    cases hexpr
  · rw [o.blankRight _ h] at hblank
    cases hblank

theorem takeWhile_append {p : Char → Bool} {as bs : List Char} (has : ∀ c ∈ as, p c = true)
    (hbs : ∀ c, bs.head? = some c → p c = false) :
    (as ++ bs).takeWhile p = as ∧ (as ++ bs).dropWhile p = bs := by
  rw [List.takeWhile_append_of_pos has, List.dropWhile_append_of_pos has]
  cases bs with
  | nil => simp
  | cons c bs => simp [hbs c rfl]

theorem body_append (o : Occurrence) (rest : List Char) :
    o.body ++ rest = o.left ++ (o.expr ++ (o.right ++ ('}' :: '}' :: rest))) := by
  simp [body]

theorem takeWhile_body (o : Occurrence) (rest : List Char) :
    (o.body ++ rest).takeWhile Text.isBlank = o.left ∧
      (o.body ++ rest).dropWhile Text.isBlank = o.expr ++ (o.right ++ ('}' :: '}' :: rest)) := by
  rw [body_append]
  refine takeWhile_append o.blankLeft fun c hc => not_isBlank (o.exprChars c ?_)
  cases hexpr : o.expr with
  | nil => exact (o.nonempty hexpr).elim
  | cons d ds =>
    rw [hexpr] at hc
    exact List.mem_cons.2 (.inl (Option.some.inj hc).symm)

theorem takeWhile_expr (o : Occurrence) (rest : List Char) :
    (o.expr ++ (o.right ++ ('}' :: '}' :: rest))).takeWhile Piece.isExprChar = o.expr ∧
      (o.expr ++ (o.right ++ ('}' :: '}' :: rest))).dropWhile Piece.isExprChar =
        o.right ++ ('}' :: '}' :: rest) := by
  refine takeWhile_append o.exprChars fun c hc => ?_
  cases hright : o.right with
  | nil =>
    rw [hright] at hc
    exact Option.some.inj hc ▸ by decide
  | cons d ds =>
    rw [hright] at hc
    have hd : d ∈ o.right := hright ▸ List.mem_cons_self
    exact Option.some.inj hc ▸ not_isExprChar (o.blankRight d hd)

theorem closed?_body (o : Occurrence) (rest : List Char) :
    Piece.closed? (o.body ++ rest) = some (o.name, rest) := by
  have hclose : Text.isBlank '}' = false := by decide
  obtain ⟨c, cs, hexpr⟩ := List.exists_cons_of_ne_nil o.nonempty
  have hright : (o.right ++ ('}' :: '}' :: rest)).dropWhile Text.isBlank = '}' :: '}' :: rest := by
    refine (takeWhile_append o.blankRight fun c hc => ?_).2
    exact Option.some.inj hc ▸ hclose
  rw [Piece.closed?, (takeWhile_body o rest).2, (takeWhile_expr o rest).1,
    (takeWhile_expr o rest).2, hright, name, hexpr]
  rfl

theorem exists_of_closed? {e : String} {rest : List Char} (h : Piece.closed? cs = some (e, rest)) :
    ∃ o : Occurrence, cs = o.body ++ rest ∧ e = o.name := by
  unfold Piece.closed? at h
  dsimp only at h
  split at h
  · cases h
  · rename_i hclose hne
    cases h
    refine ⟨⟨cs.takeWhile Text.isBlank, (cs.dropWhile Text.isBlank).takeWhile Piece.isExprChar,
      ((cs.dropWhile Text.isBlank).dropWhile Piece.isExprChar).takeWhile Text.isBlank,
      fun c => List.mem_takeWhile_imp, fun h => hne h, fun c => List.mem_takeWhile_imp,
      fun c => List.mem_takeWhile_imp⟩, ?_, rfl⟩
    rw [body_append]
    dsimp only
    rw [← hclose, List.takeWhile_append_dropWhile, List.takeWhile_append_dropWhile,
      List.takeWhile_append_dropWhile]
  · cases h

/-- The reader finds at the front of a text just what is written as a reference. -/
theorem reference?_eq_some_iff {e : String} {rest : List Char} :
    Piece.reference? cs = some (e, rest) ↔ ∃ o : Occurrence, cs = o.chars ++ rest ∧ e = o.name := by
  constructor
  · intro h
    unfold Piece.reference? at h
    split at h
    · obtain ⟨o, rfl, rfl⟩ := exists_of_closed? h
      exact ⟨o, rfl, rfl⟩
    · cases h
  · rintro ⟨o, rfl, rfl⟩
    exact closed?_body o rest

theorem eq_of_append (h : o.chars ++ x = o'.chars ++ y) : o = o' ∧ x = y := by
  have hbody : o.body ++ x = o'.body ++ y := by simpa [chars] using h
  have hclosed := closed?_body o x
  rw [hbody, closed?_body] at hclosed
  obtain ⟨hname, rfl⟩ := Prod.mk.inj (Option.some.inj hclosed)
  have hexpr : o'.expr = o.expr := String.ofList_injective hname
  have hleft : o.left = o'.left := by
    rw [← (takeWhile_body o y).1, hbody, (takeWhile_body o' y).1]
  refine ⟨Occurrence.ext hleft hexpr.symm ?_, rfl⟩
  simpa [body_append, hleft, hexpr] using hbody

/-- No two references share a character: one that stands behind other text stands behind all of a
reference at the front. -/
theorem prefix_of_append (h : o.chars ++ x = a ++ (o'.chars ++ y)) (ha : a ≠ []) :
    o.chars <+: a := by
  rcases List.append_eq_append_iff.1 h with ⟨z, hz, -⟩ | ⟨b, hb, hrest⟩
  · exact ⟨z, hz.symm⟩
  · -- What of the reference is left behind `a` starts with a brace, and its body has none.
    obtain ⟨c, a', rfl⟩ := List.exists_cons_of_ne_nil ha
    cases b with
    | nil => exact ⟨[], by simp [hb]⟩
    | cons d b' =>
      obtain ⟨rfl, hstart⟩ : '{' = d ∧ '{' :: (o'.body ++ y) = b' ++ x := by
        simpa [chars] using hrest
      have hfront : '{' :: o.body = a' ++ '{' :: b' := (List.cons.inj hb).2
      have hbrace : '{' ∈ o.body := by
        cases a' with
        | nil =>
          obtain rfl : o.body = b' := (List.cons.inj hfront).2
          have hne : o.body ≠ [] := by simp [body]
          obtain ⟨e, es, hbody⟩ := List.exists_cons_of_ne_nil hne
          rw [hbody] at hstart ⊢
          exact (List.cons.inj hstart).1 ▸ List.mem_cons_self
        | cons e a' =>
          rw [(List.cons.inj hfront).2]
          simp
      exact (o.brace_not_mem_body hbrace).elim

end Occurrence

def Clear (cs : List Char) : Prop :=
  ∀ (o : Occurrence) (before after : List Char), cs ≠ before ++ (o.chars ++ after)

theorem Clear.nil : Clear [] := fun o before after h => by
  simp [Occurrence.chars] at h

theorem Clear.tail {c : Char} {cs : List Char} (h : Clear (c :: cs)) : Clear cs :=
  fun o before after hcs => h o (c :: before) after (by rw [hcs, List.cons_append])

def trailing (ps : List (Occurrence × List Char)) : List Char :=
  ps.flatMap fun p => p.1.chars ++ p.2

/-- A text cut into references and the texts between them, in which there are no others. -/
@[ext]
structure Cutting where
  first : List Char
  rest : List (Occurrence × List Char)
  clearFirst : Clear first
  clearRest : ∀ p ∈ rest, Clear p.2

namespace Cutting

variable {cs t t' : List Char} {ps ps' : List (Occurrence × List Char)} {k k' : Cutting}

def chars (k : Cutting) : List Char := k.first ++ trailing k.rest

theorem ne_of_clear (ht : Clear t) (hne : t ≠ []) (ps : List (Occurrence × List Char))
    (o : Occurrence) (x : List Char) : t ++ trailing ps ≠ o.chars ++ x := by
  intro h
  cases ps with
  | nil => exact ht o [] x (by simpa [trailing] using h)
  | cons p ps =>
    have hsplit : o.chars ++ x = t ++ (p.1.chars ++ (p.2 ++ trailing ps)) := by
      rw [← h]
      simp [trailing]
    obtain ⟨z, rfl⟩ := Occurrence.prefix_of_append hsplit hne
    exact ht o [] z rfl

/-- Two texts without references that the same text goes on from, each with a reference, are one. -/
theorem eq_first {o o' : Occurrence} {x y : List Char} (ht : Clear t) (ht' : Clear t')
    (h : t ++ (o.chars ++ x) = t' ++ (o'.chars ++ y)) : t = t' := by
  have hlonger {t t' : List Char} {o o' : Occurrence} {x y a : List Char} (ht' : Clear t')
      (ha : t' = t ++ a) (hrest : o.chars ++ x = a ++ (o'.chars ++ y)) : t = t' := by
    by_cases hne : a = []
    · rw [ha, hne, List.append_nil]
    · obtain ⟨z, rfl⟩ := Occurrence.prefix_of_append hrest hne
      exact (ht' o t z ha).elim
  rcases List.append_eq_append_iff.1 h with ⟨a, ha, hrest⟩ | ⟨a, ha, hrest⟩
  · exact hlonger ht' ha hrest
  · exact (hlonger ht ha hrest).symm

/-- The texts and the references can be told from the text that they make. -/
theorem eq_of_append (ht : Clear t) (ht' : Clear t') (hps : ∀ p ∈ ps, Clear p.2)
    (hps' : ∀ p ∈ ps', Clear p.2) (h : t ++ trailing ps = t' ++ trailing ps') :
    t = t' ∧ ps = ps' := by
  -- Both texts have a reference next or neither has, for a text without references makes none.
  induction ps generalizing t t' ps' with
  | nil =>
    cases ps' with
    | nil => exact ⟨by simpa [trailing] using h, rfl⟩
    | cons p' ps' => exact (ht p'.1 t' (p'.2 ++ trailing ps') (by simpa [trailing] using h)).elim
  | cons p ps ih =>
    cases ps' with
    | nil => exact (ht' p.1 t (p.2 ++ trailing ps) (by simpa [trailing] using h.symm)).elim
    | cons p' ps' =>
      have hsplit : t ++ (p.1.chars ++ (p.2 ++ trailing ps)) =
          t' ++ (p'.1.chars ++ (p'.2 ++ trailing ps')) := by simpa [trailing] using h
      obtain rfl : t = t' := eq_first ht ht' hsplit
      obtain ⟨hp, hrest⟩ := Occurrence.eq_of_append (List.append_cancel_left hsplit)
      obtain ⟨hp₂, hps₂⟩ := List.forall_mem_cons.1 hps
      obtain ⟨hp₂', hps₂'⟩ := List.forall_mem_cons.1 hps'
      obtain ⟨htext, rfl⟩ := ih hp₂ hp₂' hps₂ hps₂' hrest
      exact ⟨rfl, by rw [Prod.ext hp htext]⟩

theorem chars_injective (h : k.chars = k'.chars) : k = k' := by
  obtain ⟨hfirst, hrest⟩ := eq_of_append k.clearFirst k'.clearFirst k.clearRest k'.clearRest h
  exact Cutting.ext hfirst hrest

theorem exists_chars (cs : List Char) : ∃ k : Cutting, k.chars = cs := by
  -- Behind a reference the text goes on shorter by more than one character.
  induction hn : cs.length using Nat.strongRecOn generalizing cs with
  | ind n ih =>
    cases cs with
    | nil => exact ⟨⟨[], [], .nil, List.forall_mem_nil _⟩, rfl⟩
    | cons c cs =>
      cases href : Piece.reference? (c :: cs) with
      | some r =>
        obtain ⟨o, hcs, -⟩ := Occurrence.reference?_eq_some_iff.1 href
        have hlength := congrArg List.length hcs
        simp only [Occurrence.chars, List.cons_append, List.length_cons] at hlength hn
        obtain ⟨k, hk⟩ := ih r.2.length (by simp at hlength; omega) r.2 rfl
        refine ⟨⟨[], (o, k.first) :: k.rest, .nil, ?_⟩, ?_⟩
        · exact List.forall_mem_cons.2 ⟨k.clearFirst, k.clearRest⟩
        · rw [hcs, ← hk]
          simp [chars, trailing]
      | none =>
        obtain ⟨k, hk⟩ := ih cs.length (by simp [← hn]) cs rfl
        have hclear : Clear (c :: k.first) := by
          intro o before after hfirst
          cases before with
          | nil =>
            have hstart : c :: cs = o.chars ++ (after ++ trailing k.rest) := by
              rw [← hk, chars, ← List.cons_append, hfirst]
              simp
            rw [Occurrence.reference?_eq_some_iff.2 ⟨o, hstart, rfl⟩] at href
            cases href
          | cons b before =>
            exact k.clearFirst o before after (List.cons.inj hfirst).2
        exact ⟨⟨c :: k.first, k.rest, hclear, k.clearRest⟩, by simpa [chars] using hk⟩

def pieces (ps : List (Occurrence × List Char)) : List Piece :=
  ps.flatMap fun p => .reference p.1.name :: p.2.map .char

theorem split_skip (n : Nat) (cs : List Char) : Piece.split n cs = Piece.split 0 (cs.drop n) := by
  induction cs generalizing n with
  | nil => cases n <;> rfl
  | cons c cs ih =>
    cases n with
    | zero => rfl
    | succ n => exact ih n

theorem split_occurrence (o : Occurrence) (rest : List Char) :
    Piece.split 0 (o.chars ++ rest) = .reference o.name :: Piece.split 0 rest := by
  have href : Piece.reference? ('{' :: '{' :: (o.body ++ rest)) = some (o.name, rest) :=
    Occurrence.reference?_eq_some_iff.2 ⟨o, rfl, rfl⟩
  have hskip : ('{' :: (o.body ++ rest)).length - rest.length = ('{' :: o.body).length := by
    simp only [List.length_cons, List.length_append]
    omega
  change Piece.split 0 ('{' :: '{' :: (o.body ++ rest)) = _
  rw [Piece.split, href]
  dsimp only
  rw [hskip, split_skip, ← List.cons_append, List.drop_left]

theorem split_text (ht : Clear t) (ps : List (Occurrence × List Char)) :
    Piece.split 0 (t ++ trailing ps) = t.map .char ++ Piece.split 0 (trailing ps) := by
  induction t with
  | nil => rfl
  | cons c t ih =>
    have hnone : Piece.reference? (c :: (t ++ trailing ps)) = none := by
      rw [Option.eq_none_iff_forall_ne_some]
      rintro ⟨e, rest⟩ hsome
      obtain ⟨o, hcs, -⟩ := Occurrence.reference?_eq_some_iff.1 hsome
      exact ne_of_clear ht (List.cons_ne_nil c t) ps o rest hcs
    rw [List.cons_append, Piece.split, hnone]
    exact congrArg (Piece.char c :: ·) (ih ht.tail)

theorem split_trailing (hps : ∀ p ∈ ps, Clear p.2) : Piece.split 0 (trailing ps) = pieces ps := by
  induction ps with
  | nil => rfl
  | cons p ps ih =>
    obtain ⟨hp, hps⟩ := List.forall_mem_cons.1 hps
    have hfirst : trailing (p :: ps) = p.1.chars ++ (p.2 ++ trailing ps) := by simp [trailing]
    rw [hfirst, split_occurrence, split_text hp, ih hps]
    rfl

theorem split_chars (k : Cutting) : Piece.split 0 k.chars = k.first.map .char ++ pieces k.rest := by
  rw [chars, split_text k.clearFirst, split_trailing k.clearRest]

example : Piece.split 0 ['{', '{', '{', ' ', 'a', '}', '}', '}'] =
    [.char '{', .reference "a", .char '}'] := by rfl

/-- The cut text with other texts in place of its references. -/
def filled (k : Cutting) (texts : List String) : List Char :=
  k.first ++ (List.zipWith (fun p text => text.toList ++ p.2) k.rest texts).flatten

end Cutting

namespace Reference

open Cutting

variable {h : History} {ps : List (Occurrence × List Char)}

def textOf (h : History) (o : Occurrence) : Except Fault String :=
  match lookup h o.name with
  | .error f => .error f
  | .ok v => v.text?.elim (.error (.data .value)) .ok

theorem pieceTexts_text (h : History) (t : List Char) (qs : List Piece) :
    pieceTexts h (t.map .char ++ qs) = (pieceTexts h qs).map (t ++ ·) := by
  induction t with
  | nil => cases hqs : pieceTexts h qs <;> simp [hqs, Except.map]
  | cons c t ih =>
    rw [List.map_cons, List.cons_append, pieceTexts, ih]
    cases pieceTexts h qs <;> rfl

theorem pieceTexts_cons (h : History) (p : Occurrence × List Char)
    (ps : List (Occurrence × List Char)) :
    pieceTexts h (pieces (p :: ps)) = match textOf h p.1 with
      | .error f => .error f
      | .ok text => (pieceTexts h (pieces ps)).map (text.toList ++ p.2 ++ ·) := by
  have hpieces : pieces (p :: ps) = .reference p.1.name :: (p.2.map .char ++ pieces ps) := rfl
  rw [hpieces, pieceTexts, textOf]
  cases lookup h p.1.name with
  | error f => rfl
  | ok v =>
    dsimp only
    cases v.text? with
    | none => rfl
    | some text =>
      dsimp only [Option.elim_some]
      rw [pieceTexts_text]
      cases pieceTexts h (pieces ps) <;> simp [Except.map]

theorem pieceTexts_ok {texts : List String}
    (hps : List.Forall₂ (fun p text => textOf h p.1 = .ok text) ps texts) :
    pieceTexts h (pieces ps) =
      .ok (List.zipWith (fun p text => text.toList ++ p.2) ps texts).flatten := by
  induction hps with
  | nil => rfl
  | cons hp _ ih =>
    rw [pieceTexts_cons, hp, ih]
    rfl

/-- The first reference from the left that has no text is the one that counts. -/
theorem pieceTexts_error_first {before after : List (Occurrence × List Char)}
    {p : Occurrence × List Char} {f : Fault} (hbefore : ∀ q ∈ before, ∃ text, textOf h q.1 = .ok text)
    (hp : textOf h p.1 = .error f) :
    pieceTexts h (pieces (before ++ p :: after)) = .error f := by
  induction before with
  | nil => rw [List.nil_append, pieceTexts_cons, hp]
  | cons q before ih =>
    obtain ⟨⟨text, hq⟩, hbefore⟩ := List.forall_mem_cons.1 hbefore
    rw [List.cons_append, pieceTexts_cons, hq, ih hbefore]
    rfl

theorem textOf_of_forall₂ {texts : List String}
    (hps : List.Forall₂ (fun p text => textOf h p.1 = .ok text) ps texts) :
    ∀ p ∈ ps, ∃ text, textOf h p.1 = .ok text := by
  induction hps with
  | nil => exact List.forall_mem_nil _
  | cons hp _ ih => exact List.forall_mem_cons.2 ⟨⟨_, hp⟩, ih⟩

theorem textOf_cases (h : History) (ps : List (Occurrence × List Char)) :
    (∃ texts, List.Forall₂ (fun p text => textOf h p.1 = .ok text) ps texts) ∨
      ∃ before p after f, ps = before ++ p :: after ∧
        (∀ q ∈ before, ∃ text, textOf h q.1 = .ok text) ∧ textOf h p.1 = .error f := by
  induction ps with
  | nil => exact .inl ⟨[], .nil⟩
  | cons p ps ih =>
    cases hp : textOf h p.1 with
    | error f => exact .inr ⟨[], p, ps, f, rfl, List.forall_mem_nil _, hp⟩
    | ok text =>
      rcases ih with ⟨texts, htexts⟩ | ⟨before, q, after, f, rfl, hbefore, hq⟩
      · exact .inl ⟨text :: texts, .cons hp htexts⟩
      · exact .inr ⟨p :: before, q, after, f, rfl,
          List.forall_mem_cons.2 ⟨⟨text, hp⟩, hbefore⟩, hq⟩

theorem strip_infix (cs : List Char) : Text.strip cs <:+: cs := by
  have hfront : cs.dropWhile Text.isBlank <:+ cs := List.dropWhile_suffix _
  have hback (ds : List Char) : Text.dropEndWhile Text.isBlank ds <+: ds := by
    have hreverse : ds.reverse.dropWhile Text.isBlank <:+ ds.reverse := List.dropWhile_suffix _
    rwa [← List.reverse_prefix, List.reverse_reverse] at hreverse
  exact (hback _).isInfix.trans hfront.isInfix

theorem resolve_whole {s : String} {o : Occurrence} (ho : Text.strip s.toList = o.chars) :
    resolve h (.str s) = lookup h o.name := by
  have href : Piece.reference? (Text.strip s.toList) = some (o.name, []) :=
    Occurrence.reference?_eq_some_iff.2 ⟨o, by rw [ho, List.append_nil], rfl⟩
  rw [resolve, resolveText, href]

theorem resolve_cut {s : String} (hs : ∀ o : Occurrence, Text.strip s.toList ≠ o.chars)
    {k : Cutting} (hk : k.chars = s.toList) :
    resolve h (.str s) =
      (pieceTexts h (pieces k.rest)).map fun cs => .str (String.ofList (k.first ++ cs)) := by
  have hpieces : pieceTexts h (Piece.ofText s) = (pieceTexts h (pieces k.rest)).map (k.first ++ ·) := by
    rw [Piece.ofText, ← hk, split_chars, pieceTexts_text]
  rw [resolve, resolveText]
  split
  · rename_i expr href
    obtain ⟨o, ho, -⟩ := Occurrence.reference?_eq_some_iff.1 href
    exact (hs o (by simpa using ho)).elim
  · rw [hpieces]
    cases pieceTexts h (pieces k.rest) <;> rfl

theorem resolve_clear {s : String} (hs : Clear s.toList) : resolve h (.str s) = .ok (.str s) := by
  have hwhole (o : Occurrence) : Text.strip s.toList ≠ o.chars := by
    intro ho
    obtain ⟨before, after, hparts⟩ := strip_infix s.toList
    exact hs o before after (by rw [← hparts, ho, List.append_assoc])
  have hcut := resolve_cut (h := h) hwhole
    (k := ⟨s.toList, [], hs, List.forall_mem_nil _⟩) (by simp [chars, trailing])
  rw [hcut, pieces, List.flatMap_nil, pieceTexts]
  simp [Except.map]

/-- What a text resolves to. A text that is one reference, but for blanks around it, becomes its value.
Any other text is cut in exactly one way into references and the texts between them, in which there
are none; these texts stay as they are, and in place of each reference stands the text of its value.
Resolving it fails just if one of the references does not evaluate to a text, and then as the first
such reference from the left does. A text without references stays as it is. -/
theorem resolve_text_exact (h : History) (s : String) :
    (∀ o : Occurrence, Text.strip s.toList = o.chars → resolve h (.str s) = lookup h o.name) ∧
    (Clear s.toList → resolve h (.str s) = .ok (.str s)) ∧
    ∃ k : Cutting, k.chars = s.toList ∧ (∀ k' : Cutting, k'.chars = s.toList → k' = k) ∧
      ((∀ o : Occurrence, Text.strip s.toList ≠ o.chars) →
        (∀ texts, List.Forall₂ (fun p text => textOf h p.1 = .ok text) k.rest texts →
          resolve h (.str s) = .ok (.str (String.ofList (k.filled texts)))) ∧
        (∀ before p after f, k.rest = before ++ p :: after →
          (∀ q ∈ before, ∃ text, textOf h q.1 = .ok text) → textOf h p.1 = .error f →
            resolve h (.str s) = .error f) ∧
        ((∃ f, resolve h (.str s) = .error f) ↔ ∃ p ∈ k.rest, ∃ f, textOf h p.1 = .error f)) := by
  obtain ⟨k, hk⟩ := exists_chars s.toList
  have hunique : ∀ k' : Cutting, k'.chars = s.toList → k' = k :=
    fun k' hk' => chars_injective (hk'.trans hk.symm)
  refine ⟨fun o ho => resolve_whole ho, resolve_clear, k, hk, hunique, fun hs => ?_⟩
  have hcut := resolve_cut (h := h) hs hk
  have herror : ∀ before p after f, k.rest = before ++ p :: after →
      (∀ q ∈ before, ∃ text, textOf h q.1 = .ok text) → textOf h p.1 = .error f →
        resolve h (.str s) = .error f := by
    intro before p after f hrest hbefore hp
    rw [hcut, hrest, pieceTexts_error_first hbefore hp]
    rfl
  have hok : ∀ texts, List.Forall₂ (fun p text => textOf h p.1 = .ok text) k.rest texts →
      resolve h (.str s) = .ok (.str (String.ofList (k.filled texts))) := by
    intro texts htexts
    rw [hcut, pieceTexts_ok htexts]
    rfl
  refine ⟨hok, herror, ?_⟩
  rcases textOf_cases h k.rest with ⟨texts, htexts⟩ | ⟨before, p, after, f, hrest, hbefore, hp⟩
  · refine iff_of_false (fun ⟨f, hf⟩ => ?_) fun ⟨p, hmem, f, hf⟩ => ?_
    · rw [hok texts htexts] at hf
      cases hf
    · obtain ⟨text, htext⟩ := textOf_of_forall₂ htexts p hmem
      rw [htext] at hf
      cases hf
  · exact iff_of_true ⟨f, herror before p after f hrest hbefore hp⟩ ⟨p, by simp [hrest], f, hp⟩

end Reference

end Runbook
