import Runbook.Proofs.Fault
import Runbook.Screen.Markup

namespace Runbook.Screen.Markup

def isBracket (c : Char) : Bool := c == '[' || c == ']'

def isTag (body : List Char) : Bool := body.head?.any isTagStart && body.all (!isBracket ·)

theorem not_mem_of_isTag {body : List Char} (h : isTag body) : '[' ∉ body := by
  intro hm
  obtain ⟨-, hall⟩ := (Bool.and_eq_true _ _).mp h
  exact absurd (List.all_eq_true.1 hall '[' hm) (by decide)

def bracket? (cs : List Char) : Option Char := cs.find? isBracket

theorem bracket?_append (cs ds : List Char) :
    bracket? (cs ++ ds) = (bracket? cs).or (bracket? ds) := List.find?_append

theorem bracket?_eq_none {cs : List Char} (h : cs.all (!isBracket ·)) : bracket? cs = none := by
  apply List.find?_eq_none.2
  intro c hc
  have hc := List.all_eq_true.1 h c hc
  simpa using hc

theorem not_mem_of_bracket? {cs : List Char} (h : bracket? cs = none) : '[' ∉ cs := by
  intro hm
  exact absurd (List.find?_eq_none.1 h '[' hm) (by decide)

theorem isBracket_of_ne {c : Char} (ho : c ≠ '[') (hc : c ≠ ']') : isBracket c = false := by
  simp [isBracket, ho, hc]

theorem not_isBracket_of_isTagStart {c : Char} (h : isTagStart c) : isBracket c = false := by
  apply isBracket_of_ne
  · rintro rfl
    cases h
  · rintro rfl
    cases h

theorem tag?_eq_some_iff {cs body rest : List Char} :
    tag? cs = some (body, rest) ↔ isTag body ∧ cs = '[' :: (body ++ ']' :: rest) := by
  have hp : (fun x : Char => x != '[' && x != ']') = (!isBracket ·) := by
    funext x
    simp [isBracket, bne]
  constructor
  · intro h
    unfold tag? at h
    split at h
    · rename_i c cs
      rw [hp] at h
      dsimp only at h
      split at h
      · rename_i rest' hd
        split at h
        · rename_i hc
          cases h
          have hs : cs = cs.takeWhile (!isBracket ·) ++ ']' :: rest := by
            rw [← hd]
            exact List.takeWhile_append_dropWhile.symm
          refine ⟨?_, by rw [List.cons_append, ← hs]⟩
          simp only [isTag, List.head?_cons, Option.any_some, hc, List.all_cons,
            not_isBracket_of_isTagStart hc, Bool.not_false, List.all_takeWhile, Bool.and_self]
        · cases h
      · cases h
    · cases h
  · rintro ⟨hb, rfl⟩
    obtain ⟨hstart, hall⟩ := (Bool.and_eq_true _ _).mp hb
    cases body with
    | nil => cases hstart
    | cons c body =>
      have hc : isTagStart c = true := hstart
      have hbody : ∀ x ∈ body, (!isBracket x) = true := fun x hx =>
        List.all_eq_true.1 hall x (List.mem_cons_of_mem _ hx)
      have htake : (body ++ ']' :: rest).takeWhile (!isBracket ·) = body := by
        rw [List.takeWhile_append_of_pos hbody, List.takeWhile_cons_of_neg (by decide),
          List.append_nil]
      have hdrop : (body ++ ']' :: rest).dropWhile (!isBracket ·) = ']' :: rest := by
        rw [List.dropWhile_append_of_pos hbody, List.dropWhile_cons_of_neg (by decide)]
      simp only [tag?, List.cons_append, hp, htake, hdrop, hc, if_true]

/-- What looks like a tag is decided by the character after its bracket and by the bracket after
that. -/
theorem isSome_tag?_iff {cs : List Char} :
    (tag? ('[' :: cs)).isSome ↔ cs.head?.any isTagStart ∧ bracket? cs = some ']' := by
  constructor
  · intro h
    obtain ⟨⟨body, rest⟩, h⟩ := Option.isSome_iff_exists.1 h
    obtain ⟨hb, hcs⟩ := tag?_eq_some_iff.1 h
    obtain rfl : cs = body ++ ']' :: rest := (List.cons.inj hcs).2
    obtain ⟨hstart, hall⟩ := (Bool.and_eq_true _ _).mp hb
    constructor
    · cases body with
      | nil => cases hstart
      | cons c body => exact hstart
    · rw [bracket?_append, bracket?_eq_none hall]
      rfl
  · rintro ⟨hstart, hb⟩
    obtain ⟨-, body, rest, rfl, hbody⟩ := List.find?_eq_some_iff_append.1 hb
    have htag : isTag body := by
      apply (Bool.and_eq_true _ _).mpr ⟨_, List.all_eq_true.2 hbody⟩
      cases body with
      | nil => cases hstart
      | cons c body => exact hstart
    exact Option.isSome_iff_exists.2 ⟨_, tag?_eq_some_iff.2 ⟨htag, rfl⟩⟩

theorem tag?_eq_none_of_ne {c : Char} (h : c ≠ '[') (cs : List Char) : tag? (c :: cs) = none := by
  cases ht : tag? (c :: cs) with
  | none => rfl
  | some t =>
    obtain ⟨-, hc⟩ := tag?_eq_some_iff.1 ht
    exact absurd (List.cons.inj hc).1 h

namespace Part

def tag? : Part → Option (List Char)
  | tag body => some body
  | text _ => none

end Part

/-- The tags of a text that is read with so many backslashes before it. -/
def tags (slashes : Nat) (cs : List Char) : List (List Char) :=
  (parts 0 slashes cs).filterMap Part.tag?

theorem filterMap_addText (cs : List Char) (ps : List Part) :
    (addText cs ps).filterMap Part.tag? = ps.filterMap Part.tag? := by
  cases ps with
  | nil => rfl
  | cons p ps => cases p <;> rfl

theorem parts_skip (skip : Nat) (cs : List Char) : parts skip 0 cs = parts 0 0 (cs.drop skip) := by
  induction skip generalizing cs with
  | zero => rfl
  | succ skip ih =>
    cases cs with
    | nil => rfl
    | cons c cs => exact ih cs

theorem tags_nil (slashes : Nat) : tags slashes [] = [] := by
  unfold tags parts
  split <;> rfl

theorem tags_slash (slashes : Nat) (cs : List Char) :
    tags slashes ('\\' :: cs) = tags (slashes + 1) cs := by
  unfold tags
  rw [parts]
  rfl

theorem tags_slashes (slashes n : Nat) (cs : List Char) :
    tags slashes (List.replicate n '\\' ++ cs) = tags (slashes + n) cs := by
  induction n generalizing slashes with
  | zero => rfl
  | succ n ih =>
    rw [List.replicate_succ, List.cons_append, tags_slash, ih, Nat.add_assoc, Nat.add_comm 1 n]

theorem tags_cons {c : Char} {cs : List Char} (hc : c ≠ '\\') (ht : tag? (c :: cs) = none)
    (slashes : Nat) : tags slashes (c :: cs) = tags 0 cs := by
  unfold tags
  rw [parts]
  simp only [hc, if_false, ht, filterMap_addText]

theorem tags_cons_of_ne {c : Char} (hc : c ≠ '\\') (ho : c ≠ '[') (slashes : Nat)
    (cs : List Char) : tags slashes (c :: cs) = tags 0 cs :=
  tags_cons hc (tag?_eq_none_of_ne ho cs) slashes

theorem tags_tag {body : List Char} (hb : isTag body) (slashes : Nat) (rest : List Char) :
    tags slashes ('[' :: (body ++ ']' :: rest)) =
      (if slashes % 2 = 1 then [] else [body]) ++ tags 0 rest := by
  have ht : tag? ('[' :: (body ++ ']' :: rest)) = some (body, rest) :=
    tag?_eq_some_iff.2 ⟨hb, rfl⟩
  have hskip : (body ++ ']' :: rest).length - rest.length = body.length + 1 := by
    rw [List.length_append, List.length_cons]
    omega
  have hparts : parts (body.length + 1) 0 (body ++ ']' :: rest) = parts 0 0 rest := by
    have hdrop : (body ++ ']' :: rest).drop (body.length + 1) = rest := by simp
    rw [parts_skip, hdrop]
  unfold tags
  rw [parts]
  simp only [Char.reduceEq, if_false, ht, hskip, hparts]
  by_cases h2 : slashes < 2 <;> by_cases hodd : slashes % 2 = 1 <;>
    simp only [h2, hodd, if_true, if_false] <;> rfl

theorem tags_of_not_mem {cs : List Char} (h : '[' ∉ cs) (slashes : Nat) :
    ∃ n, ∀ rest, tags slashes (cs ++ rest) = tags n rest := by
  -- How many backslashes come to stand before the rest does not hang on the rest.
  induction cs generalizing slashes with
  | nil => exact ⟨slashes, fun _ => rfl⟩
  | cons c cs ih =>
    have hc := List.ne_of_not_mem_cons h
    have hcs := List.not_mem_of_not_mem_cons h
    by_cases hs : c = '\\'
    · obtain ⟨n, hn⟩ := ih hcs (slashes + 1)
      refine ⟨n, fun rest => ?_⟩
      rw [hs, List.cons_append, tags_slash, hn]
    · obtain ⟨n, hn⟩ := ih hcs 0
      refine ⟨n, fun rest => ?_⟩
      rw [List.cons_append, tags_cons_of_ne hs (Ne.symm hc), hn]

theorem bracket?_escapeFrom (slashes : Nat) (cs : List Char) :
    bracket? (escapeFrom slashes cs) = bracket? cs := by
  have hslashes : ∀ n cs, bracket? (List.replicate n '\\' ++ cs) = bracket? cs := by
    intro n cs
    rw [bracket?_append, bracket?_eq_none, Option.none_or]
    simp [isBracket]
  induction cs generalizing slashes with
  | nil =>
    have h := hslashes slashes []
    rwa [List.append_nil] at h
  | cons c cs ih =>
    have hcons : ∀ ds, bracket? ds = bracket? cs → bracket? (c :: ds) = bracket? (c :: cs) := by
      intro ds hds
      rw [bracket?, bracket?, List.find?_cons, List.find?_cons]
      split
      · rfl
      · exact hds
    unfold escapeFrom
    split
    · rename_i hc
      rw [ih, hc]
      rfl
    · split <;> rw [hslashes, hcons _ (ih 0)]

theorem escapeFrom_append {body : List Char} (h : '[' ∉ body) (slashes : Nat) (rest : List Char) :
    escapeFrom slashes (body ++ ']' :: rest) =
      List.replicate slashes '\\' ++ (body ++ ']' :: escapeFrom 0 rest) := by
  induction body generalizing slashes with
  | nil =>
    rw [List.nil_append, escapeFrom, tag?_eq_none_of_ne (by decide)]
    rfl
  | cons c body ih =>
    have hc := List.ne_of_not_mem_cons h
    have hbody := List.not_mem_of_not_mem_cons h
    rw [List.cons_append, escapeFrom]
    split
    · rename_i hs
      rw [ih hbody, hs, List.replicate_succ', List.append_assoc]
      rfl
    · rw [tag?_eq_none_of_ne (Ne.symm hc)]
      simp only [Option.isSome_none, Bool.false_eq_true, if_false, ih hbody, List.replicate_zero,
        List.nil_append, List.cons_append]

/-- What follows an escaped text opens a bracket before it closes one. -/
def OpensFirst (rest : List Char) : Prop := bracket? rest ≠ some ']'

theorem head?_escapeFrom_succ (slashes : Nat) (cs : List Char) :
    (escapeFrom (slashes + 1) cs).head? = some '\\' := by
  induction cs generalizing slashes with
  | nil => rfl
  | cons c cs ih =>
    unfold escapeFrom
    split
    · exact ih (slashes + 1)
    · split <;> rfl

theorem head?_escapeFrom (slashes : Nat) (c : Char) (cs : List Char) :
    (escapeFrom slashes (c :: cs)).head? = some '\\' ∨
      (escapeFrom slashes (c :: cs)).head? = some c := by
  unfold escapeFrom
  split
  · exact .inl (head?_escapeFrom_succ slashes cs)
  · split
    · exact .inl rfl
    · cases slashes with
      | zero => exact .inr rfl
      | succ slashes => exact .inl rfl

theorem tag?_escapeFrom {cs rest : List Char} (hr : OpensFirst rest)
    (ht : tag? ('[' :: cs) = none) : tag? ('[' :: (escapeFrom 0 cs ++ rest)) = none := by
  have hnot : ¬ (cs.head?.any isTagStart ∧ bracket? cs = some ']') := by
    rw [← isSome_tag?_iff, ht]
    exact Bool.false_ne_true
  apply Option.not_isSome_iff_eq_none.1
  rw [isSome_tag?_iff, bracket?_append, bracket?_escapeFrom]
  rintro ⟨hstart, hb⟩
  cases hcs : bracket? cs with
  | none =>
    rw [hcs, Option.none_or] at hb
    exact hr hb
  | some b =>
    rw [hcs, Option.some_or] at hb
    refine hnot ⟨?_, hcs.trans hb⟩
    cases cs with
    | nil => cases hcs
    | cons c cs =>
      obtain h | h := head?_escapeFrom 0 c cs
      · rw [List.head?_append, h] at hstart
        cases hstart
      · rw [List.head?_append, h] at hstart
        exact hstart

/-- An escaped text holds no tags. -/
theorem tags_escapeFrom {rest : List Char} (hr : OpensFirst rest) (cs : List Char)
    (slashes : Nat) : ∃ n, tags 0 (escapeFrom slashes cs ++ rest) = tags n rest := by
  cases cs with
  | nil =>
    refine ⟨slashes, ?_⟩
    rw [escapeFrom, tags_slashes, Nat.zero_add]
  | cons c cs =>
    unfold escapeFrom
    split
    · exact tags_escapeFrom hr cs (slashes + 1)
    · rename_i hslash
      split
      · rename_i ht
        -- The tag is read as a whole, so that the text goes on after it.
        obtain ⟨⟨body, after⟩, ht⟩ := Option.isSome_iff_exists.1 ht
        obtain ⟨hb, hcs⟩ := tag?_eq_some_iff.1 ht
        obtain ⟨rfl, htail⟩ := List.cons.inj hcs
        obtain ⟨n, hn⟩ := tags_escapeFrom hr after 0
        have hodd : (0 + (2 * slashes + 1)) % 2 = 1 := by omega
        refine ⟨n, ?_⟩
        rw [htail, escapeFrom_append (not_mem_of_isTag hb), List.append_assoc, tags_slashes, List.replicate_zero,
          List.nil_append, List.cons_append, List.append_assoc, List.cons_append, tags_tag hb,
          if_pos hodd, List.nil_append, hn]
      · rename_i ht
        have hnone : tag? (c :: (escapeFrom 0 cs ++ rest)) = none := by
          by_cases hc : c = '['
          · subst c
            exact tag?_escapeFrom hr (Option.not_isSome_iff_eq_none.1 ht)
          · exact tag?_eq_none_of_ne hc _
        obtain ⟨n, hn⟩ := tags_escapeFrom hr cs 0
        refine ⟨n, ?_⟩
        rw [List.append_assoc, tags_slashes, List.cons_append, tags_cons hslash hnone, hn]
termination_by cs.length
decreasing_by
  all_goals simp_all
  omega

theorem tags_escape {rest : List Char} (hr : OpensFirst rest) (s : String) :
    ∃ n, tags 0 (escape s ++ rest) = tags n rest := by
  unfold escape
  dsimp only
  split
  · have hr' : OpensFirst ('\\' :: rest) := hr
    obtain ⟨n, hn⟩ := tags_escapeFrom hr' s.toList 0
    refine ⟨n + 1, ?_⟩
    rw [List.append_assoc, List.singleton_append, hn, tags_slash]
  · exact tags_escapeFrom hr s.toList 0

def isPlain (cs : List Char) : Bool := cs.all fun c => c != '\\' && c != '['

theorem tags_plain {before : List Char} (h : isPlain before) (rest : List Char) :
    tags 0 (before ++ rest) = tags 0 rest := by
  induction before with
  | nil => rfl
  | cons c cs ih =>
    obtain ⟨hc, hcs⟩ := (Bool.and_eq_true _ _).mp h
    obtain ⟨hslash, hopen⟩ := (Bool.and_eq_true _ _).mp hc
    rw [List.cons_append, tags_cons_of_ne (bne_iff_ne.1 hslash) (bne_iff_ne.1 hopen), ih hcs]

/-- No tag stands in the text, whatever tag comes behind it. -/
def Silent (cs : List Char) : Prop :=
  ∀ rest, OpensFirst rest → ∃ n, tags 0 (cs ++ rest) = tags n rest

theorem silent_of_not_mem {cs : List Char} (h : '[' ∉ cs) : Silent cs := fun rest _ =>
  (tags_of_not_mem h 0).imp fun _ hn => hn rest

theorem silent_escape {before after : List Char} (hb : isPlain before)
    (ha : bracket? after = none) (s : String) : Silent (before ++ (escape s ++ after)) := by
  intro rest hr
  have hafter : OpensFirst (after ++ rest) := by
    rw [OpensFirst, bracket?_append, ha]
    exact hr
  obtain ⟨n, hn⟩ := tags_escape hafter s
  obtain ⟨m, hm⟩ := tags_of_not_mem (not_mem_of_bracket? ha) n
  refine ⟨m, ?_⟩
  rw [List.append_assoc, tags_plain hb, List.append_assoc, hn, hm]

/-- Tags with these bodies can be read one after the other while these are open, and no style that
they begin stops who reads it. -/
inductive Reads : List Tag → List (List Char) → Prop
  | nil (opened : List Tag) : Reads opened []
  | opens {opened : List Tag} {body : List Char} {bodies : List (List Char)} {t : Tag}
      (read : Change.read body = .ok (.opens t)) (calm : Style.stops t.style = false)
      (rest : Reads (t :: opened) bodies) : Reads opened (body :: bodies)
  | closes {opened : List Tag} {body : List Char} {bodies : List (List Char)} {t : Tag}
      {name : Option (List Char)} (read : Change.read body = .ok (.closes name))
      (found : opened.find? (Tag.closedBy name) = some t) (plain : t.isHandler = false)
      (rest : Reads (opened.eraseP (Tag.closedBy name)) bodies) : Reads opened (body :: bodies)

/-- None of these styles stops who reads it. -/
def Shown.IsCalm (x : Shown) : Prop := ∀ s ∈ x.spans, Style.stops s.style = false

theorem exists_renderParts {opened : List Opened} {ps : List Part}
    (hopened : ∀ o ∈ opened, Style.stops o.tag.style = false)
    (h : Reads (opened.map (·.tag)) (ps.filterMap Part.tag?)) (position : Nat)
    (names : List Char → Bool) :
    ∃ x, renderParts names opened position ps = .ok x ∧ x.IsCalm := by
  -- The tags that are open are those of the derivation, each with the place where it was opened.
  induction ps generalizing opened position with
  | nil =>
    refine ⟨_, rfl, fun s hs => ?_⟩
    obtain ⟨o, ho, rfl⟩ := List.mem_map.1 hs
    exact hopened o ho
  | cons p ps ih =>
    cases p with
    | text cs =>
      obtain ⟨x, hx, hcalm⟩ := ih hopened h (position + (showText cs).length)
      refine ⟨{ x with text := showText cs ++ x.text }, ?_, hcalm⟩
      simp only [renderParts, hx, Except.map]
    | tag body =>
      have hcons : (Part.tag body :: ps).filterMap Part.tag? =
          body :: ps.filterMap Part.tag? := rfl
      rw [hcons] at h
      unfold renderParts
      cases h with
      | @opens _ _ _ t hread hcalm h =>
        simp only [hread]
        have hall : ∀ o ∈ (⟨t, position⟩ : Opened) :: opened, Style.stops o.tag.style = false :=
          List.forall_mem_cons.2 ⟨hcalm, hopened⟩
        exact ih hall h position
      | @closes _ _ _ _ name hread hfound hplain h =>
        rw [List.find?_map] at hfound
        obtain ⟨o, ho, rfl⟩ := Option.map_eq_some_iff.1 hfound
        have hreadable : o.tag.isReadable names = true := by rw [Tag.isReadable, hplain]; rfl
        rw [List.eraseP_map] at h
        have hrest : ∀ o ∈ opened.eraseP (·.tag.closedBy name), Style.stops o.tag.style = false :=
          fun o ho => hopened o (List.mem_of_mem_eraseP ho)
        obtain ⟨x, hx, hcalm⟩ := ih hrest h position
        have hclosed : opened.find? (·.tag.closedBy name) = some o := ho
        simp only [hread, hclosed, hreadable, if_true, hx]
        refine ⟨_, rfl, ?_⟩
        split
        · exact hcalm
        · exact List.forall_mem_cons.2 ⟨hopened o (List.mem_of_find?_eq_some ho), hcalm⟩

theorem exists_render {cs : List Char} (h : Reads [] (tags 0 cs)) (names : List Char → Bool) :
    ∃ x, render names cs = .ok x ∧ x.IsCalm := by
  unfold render
  split
  · exact exists_renderParts (fun o ho => absurd ho List.not_mem_nil) h 0 names
  · exact ⟨_, rfl, fun s hs => absurd hs List.not_mem_nil⟩

def IsUnshown (f : Fault) : Prop := f = .markup ∨ f = .data .value

theorem Style.normalize_error {cs : List Char} {f : Fault} (h : Style.normalize cs = .error f) :
    f = .data .value := by
  unfold Style.normalize at h
  split at h
  · cases h
  · cases h
  · cases h
    rfl

theorem Change.read_error {body : List Char} {f : Fault} (h : Change.read body = .error f) :
    f = .data .value := by
  unfold Change.read at h
  dsimp only at h
  split at h
  · split at h
    · cases h
    · exact Style.normalize_error (map_eq_error h)
  · exact Style.normalize_error (map_eq_error h)

variable {names : List Char → Bool}

theorem isUnshown_of_renderParts {opened : List Opened} {position : Nat} {ps : List Part} {f : Fault}
    (h : renderParts names opened position ps = .error f) : IsUnshown f := by
  induction ps generalizing opened position with
  | nil => cases h
  | cons p ps ih =>
    cases p with
    | text cs => exact ih (map_eq_error h)
    | tag body =>
      unfold renderParts at h
      split at h
      · rename_i hc
        cases h
        exact .inr (Change.read_error hc)
      · exact ih h
      · split at h
        · cases h
          exact .inl rfl
        · split at h
          · exact ih (map_eq_error h)
          · cases h
            exact .inl rfl

theorem isUnshown_of_render {cs : List Char} {f : Fault} (h : render names cs = .error f) :
    IsUnshown f := by
  unfold render at h
  split at h
  · exact isUnshown_of_renderParts h
  · cases h

end Runbook.Screen.Markup
