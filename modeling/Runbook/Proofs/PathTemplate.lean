import Runbook.PathTemplate
import Runbook.Proofs.Dict.Merging
import Mathlib.Data.List.Infix

namespace Runbook.PathTemplate

variable {k : String} {t cs : List Char} {es : List (String × List Char)} {keys : List String}

/-- A key that stands between its braces without any of its own. -/
def IsPlain (key : String) : Prop := '{' ∉ key.toList ∧ '}' ∉ key.toList

instance (key : String) : Decidable (IsPlain key) := inferInstanceAs (Decidable (_ ∧ _))

/-- The path with every place filled in at once, read from left to right; what is filled in is not
read. The number says how many characters of a place are still to be passed over. -/
def substituteFrom (es : List (String × List Char)) : Nat → List Char → List Char
  | _, [] => []
  | n + 1, _ :: cs => substituteFrom es n cs
  | 0, c :: cs =>
    match es.find? fun e => (placeholder e.1).isPrefixOf (c :: cs) with
    | some e => e.2 ++ substituteFrom es (e.1.toList.length + 1) cs
    | none => c :: substituteFrom es 0 cs

def substitute (es : List (String × List Char)) (path : List Char) : List Char :=
  substituteFrom es 0 path

def texts (params : List (String × Value)) : List (String × List Char) :=
  params.map fun e => (e.1, (e.2.text?.getD "").toList)

abbrev Template := List (Char ⊕ String)

def templateFrom (keys : List String) : Nat → List Char → Template
  | _, [] => []
  | n + 1, _ :: cs => templateFrom keys n cs
  | 0, c :: cs =>
    match keys.find? fun k => (placeholder k).isPrefixOf (c :: cs) with
    | some k => .inr k :: templateFrom keys (k.toList.length + 1) cs
    | none => .inl c :: templateFrom keys 0 cs

def template (keys : List String) (path : List Char) : Template := templateFrom keys 0 path

namespace Template

variable {T : Template} {f g : String → Option (List Char)}

def chars (T : Template) : List Char := T.flatMap fun | .inl c => [c] | .inr k => placeholder k

def fill (f : String → Option (List Char)) (T : Template) : Template :=
  T.flatMap fun
    | .inl c => [.inl c]
    | .inr k => (f k).elim [.inr k] fun t => t.map .inl

def only (k : String) (t : List Char) : String → Option (List Char) :=
  fun k' => if k' = k then some t else none

def Shows (k : String) (T : Template) : Prop := (placeholder k).map .inl <:+: T

instance (k : String) (T : Template) : Decidable (T.Shows k) :=
  inferInstanceAs (Decidable (_ <:+: _))

def PlainKeys (T : Template) : Prop := ∀ k, .inr k ∈ T → IsPlain k

end Template

/-- When parameters are filled in one after the other, none finds its placeholder where the path had
no place for it. -/
def Inert : List (String × List Char) → Template → Prop
  | [], _ => True
  | (k, t) :: es, T => ¬ T.Shows k ∧ Inert es (T.fill (Template.only k t))

instance decidableInert : (es : List (String × List Char)) → (T : Template) → Decidable (Inert es T)
  | [], _ => inferInstanceAs (Decidable True)
  | (k, t) :: es, T =>
    have := decidableInert es (T.fill (Template.only k t))
    inferInstanceAs (Decidable (¬ T.Shows k ∧ Inert es (T.fill (Template.only k t))))

section Placeholders

theorem eq_of_placeholder {k' : String} {rest : List Char} (hk : IsPlain k) (hk' : IsPlain k')
    (h : placeholder k <+: placeholder k' ++ rest) : k = k' := by
  obtain ⟨more, hmore⟩ := h
  have hends (k : String) (hk : IsPlain k) (more : List Char) :
      (k.toList ++ '}' :: more).takeWhile (· != '}') = k.toList := by
    have hinside : ∀ c ∈ k.toList, (c != '}') = true := fun c hc =>
      bne_iff_ne.2 fun hbrace => hk.2 (hbrace ▸ hc)
    rw [List.takeWhile_append_of_pos hinside]
    simp
  have hbody : k.toList ++ '}' :: more = k'.toList ++ '}' :: rest := by
    simpa [placeholder] using hmore
  apply String.toList_injective
  rw [← hends k hk more, hbody, hends k' hk' rest]

theorem isPrefixOf_placeholder : (placeholder k).isPrefixOf cs = true ↔ placeholder k <+: cs :=
  List.isPrefixOf_iff_prefix

theorem placeholder_length (k : String) : (placeholder k).length - 1 = k.toList.length + 1 := by
  simp [placeholder]

end Placeholders

namespace Template

variable {T : Template} {f g : String → Option (List Char)}

theorem chars_cons_inl (c : Char) (T : Template) : chars (.inl c :: T) = c :: T.chars := rfl

theorem chars_cons_inr (k : String) (T : Template) :
    chars (.inr k :: T) = placeholder k ++ T.chars := rfl

theorem chars_append (T U : Template) : chars (T ++ U) = T.chars ++ U.chars := List.flatMap_append

theorem chars_map_inl (t : List Char) : chars (t.map .inl) = t := by
  induction t with
  | nil => rfl
  | cons c t ih => rw [List.map_cons, chars_cons_inl, ih]

theorem fill_cons_inl (f : String → Option (List Char)) (c : Char) (T : Template) :
    fill f (.inl c :: T) = .inl c :: T.fill f := rfl

theorem fill_cons_inr (f : String → Option (List Char)) (k : String) (T : Template) :
    fill f (.inr k :: T) = (f k).elim [.inr k] (fun t => t.map .inl) ++ T.fill f := rfl

theorem fill_map_inl (f : String → Option (List Char)) (t : List Char) :
    fill f (t.map .inl) = t.map .inl := by
  induction t with
  | nil => rfl
  | cons c t ih => rw [List.map_cons, fill_cons_inl, ih]

theorem fill_append (f : String → Option (List Char)) (T U : Template) :
    fill f (T ++ U) = T.fill f ++ U.fill f := List.flatMap_append

theorem fill_fill (f g : String → Option (List Char)) (T : Template) :
    (T.fill f).fill g = T.fill fun k => (f k).or (g k) := by
  induction T with
  | nil => rfl
  | cons x T ih =>
    cases x with
    | inl c => rw [fill_cons_inl, fill_cons_inl, fill_cons_inl, ih]
    | inr k =>
      rw [fill_cons_inr, fill_append, ih, fill_cons_inr]
      cases f k with
      | some t => rw [Option.elim_some, fill_map_inl]; rfl
      | none => rw [Option.elim_none, fill_cons_inr, Option.none_or]; simp [fill]

theorem fill_none (T : Template) : (T.fill fun _ => none) = T := by
  induction T with
  | nil => rfl
  | cons x T ih =>
    cases x with
    | inl c => rw [fill_cons_inl, ih]
    | inr k => rw [fill_cons_inr, ih]; rfl

theorem PlainKeys.tail {x : Char ⊕ String} (h : PlainKeys (x :: T)) : PlainKeys T :=
  fun k hk => h k (List.mem_cons_of_mem x hk)

theorem PlainKeys.fill (h : T.PlainKeys) (f : String → Option (List Char)) :
    (T.fill f).PlainKeys := by
  intro k hk
  obtain ⟨x, hx, hkx⟩ := List.mem_flatMap.1 hk
  cases x with
  | inl c => simp at hkx
  | inr k' =>
    cases hf : f k' with
    | some t => simp [hf] at hkx
    | none =>
      have hsame : k = k' := by simpa [hf] using hkx
      exact hsame ▸ h k' hx

theorem not_shows_tail {x : Char ⊕ String} (h : ¬ Shows k (x :: T)) : ¬ Shows k T := fun hshows =>
  h (hshows.trans (List.suffix_cons x T).isInfix)

theorem map_inl_front {xs : List Char} (hxs : '{' ∉ xs) (h : xs <+: T.chars) :
    xs.map .inl <+: T := by
  induction xs generalizing T with
  | nil => exact List.nil_prefix
  | cons x xs ih =>
    rw [List.mem_cons, not_or] at hxs
    cases T with
    | nil => simp [chars] at h
    | cons y T =>
      cases y with
      | inl c =>
        rw [chars_cons_inl, List.cons_prefix_cons] at h
        rw [List.map_cons, List.cons_prefix_cons]
        exact ⟨congrArg _ h.1, ih hxs.2 h.2⟩
      | inr k =>
        rw [chars_cons_inr, placeholder, List.cons_append, List.cons_prefix_cons] at h
        exact (hxs.1 h.1.symm).elim

theorem shows_of_front {c : Char} (hk : IsPlain k) (h : placeholder k <+: chars (.inl c :: T)) :
    Shows k (.inl c :: T) := by
  have hbody : '{' ∉ k.toList ++ ['}'] := by simp [hk.1]
  rw [chars_cons_inl, placeholder, List.cons_prefix_cons] at h
  refine List.IsPrefix.isInfix ?_
  rw [placeholder, List.map_cons, List.cons_prefix_cons]
  exact ⟨congrArg _ h.1, map_inl_front hbody h.2⟩

end Template

section Substituting

open Template

variable {T : Template}

theorem substituteFrom_skip (es : List (String × List Char)) (xs ys : List Char) :
    substituteFrom es xs.length (xs ++ ys) = substituteFrom es 0 ys := by
  induction xs with
  | nil => rfl
  | cons x xs ih => exact ih

theorem substitute_place {rest : List Char}
    (h : (es.find? fun e => (placeholder e.1).isPrefixOf (placeholder k ++ rest)) = some (k, t)) :
    substitute es (placeholder k ++ rest) = t ++ substitute es rest := by
  have hchars : placeholder k ++ rest = '{' :: (k.toList ++ ['}'] ++ rest) := rfl
  have hskip := substituteFrom_skip es (k.toList ++ ['}']) rest
  rw [List.length_append, List.length_singleton] at hskip
  rw [hchars] at h ⊢
  rw [substitute, substituteFrom, h]
  dsimp only
  rw [hskip, substitute]

theorem substitute_char {c : Char}
    (h : (es.find? fun e => (placeholder e.1).isPrefixOf (c :: cs)) = none) :
    substitute es (c :: cs) = c :: substitute es cs := by
  rw [substitute, substituteFrom, h]
  rfl

theorem find?_one_of_not (t : List Char) (h : ¬ placeholder k <+: cs) :
    ([(k, t)].find? fun e => (placeholder e.1).isPrefixOf cs) = none := by
  rw [List.find?_singleton, if_neg (by rwa [isPrefixOf_placeholder])]

theorem substitute_plain {xs : List Char} (hxs : '{' ∉ xs) (k : String) (t ys : List Char) :
    substitute [(k, t)] (xs ++ ys) = xs ++ substitute [(k, t)] ys := by
  induction xs with
  | nil => rfl
  | cons x xs ih =>
    rw [List.mem_cons, not_or] at hxs
    have hno : ¬ placeholder k <+: x :: (xs ++ ys) := by
      rw [placeholder, List.cons_prefix_cons]
      exact fun h => hxs.1 h.1
    rw [List.cons_append, substitute_char (find?_one_of_not t hno), ih hxs.2, List.cons_append]

theorem substitute_chars (hk : IsPlain k) (hT : T.PlainKeys) (hshows : ¬ T.Shows k) :
    substitute [(k, t)] T.chars = (T.fill (only k t)).chars := by
  induction T with
  | nil => rfl
  | cons x T ih =>
    have hlater := ih hT.tail (not_shows_tail hshows)
    cases x with
    | inl c =>
      have hno : ¬ placeholder k <+: c :: chars T := fun h => hshows (shows_of_front hk h)
      rw [chars_cons_inl, substitute_char (find?_one_of_not t hno), hlater, fill_cons_inl,
        chars_cons_inl]
    | inr k' =>
      have hk' : IsPlain k' := hT k' List.mem_cons_self
      rw [chars_cons_inr, fill_cons_inr, chars_append]
      by_cases hsame : k' = k
      · subst hsame
        have hyes : (placeholder k').isPrefixOf (placeholder k' ++ chars T) = true :=
          isPrefixOf_placeholder.2 (List.prefix_append _ _)
        have hfind : ([(k', t)].find? fun e =>
            (placeholder e.1).isPrefixOf (placeholder k' ++ chars T)) = some (k', t) := by
          rw [List.find?_singleton, if_pos hyes]
        rw [substitute_place hfind, hlater, only, if_pos rfl, Option.elim_some, chars_map_inl]
      · -- the places of other keys are passed over like the characters around them
        have hno : ¬ placeholder k <+: placeholder k' ++ chars T := fun h =>
          hsame (eq_of_placeholder hk hk' h).symm
        have hbody : '{' ∉ k'.toList ++ ['}'] := by simp [hk'.1]
        have hpassed : substitute [(k, t)] (placeholder k' ++ chars T) =
            placeholder k' ++ substitute [(k, t)] (chars T) :=
          (substitute_char (find?_one_of_not t hno)).trans
            (congrArg _ (substitute_plain hbody k t (chars T)))
        rw [hpassed, hlater, only, if_neg hsame, Option.elim_none, chars_cons_inr]
        simp [chars]

end Substituting

section Reading

open Template

theorem templateFrom_skip (keys : List String) (xs ys : List Char) :
    templateFrom keys xs.length (xs ++ ys) = templateFrom keys 0 ys := by
  induction xs with
  | nil => rfl
  | cons x xs ih => exact ih

theorem prefix_of_find? (h : (keys.find? fun k' => (placeholder k').isPrefixOf cs) = some k) :
    placeholder k <+: cs := by
  have hfront := List.find?_some h
  exact isPrefixOf_placeholder.1 hfront

/-- A path is read piece by piece: a place that the first of the keys has there, or else a
character. -/
theorem template_induction (keys : List String) {motive : List Char → Template → Prop}
    (nil : motive [] [])
    (place : ∀ k rest, (keys.find? fun k' => (placeholder k').isPrefixOf (placeholder k ++ rest)) =
      some k → motive rest (template keys rest) →
        motive (placeholder k ++ rest) (.inr k :: template keys rest))
    (char : ∀ c cs, (keys.find? fun k' => (placeholder k').isPrefixOf (c :: cs)) = none →
      motive cs (template keys cs) → motive (c :: cs) (.inl c :: template keys cs))
    (path : List Char) : motive path (template keys path) := by
  induction hn : path.length using Nat.strongRecOn generalizing path with
  | ind n ih =>
    cases path with
    | nil => exact nil
    | cons c cs =>
      rw [template, templateFrom]
      cases hfind : keys.find? fun k => (placeholder k).isPrefixOf (c :: cs) with
      | none => exact char c cs hfind (ih _ (by simp [← hn]) cs rfl)
      | some k =>
        obtain ⟨rest, hrest⟩ := prefix_of_find? hfind
        have hchars : placeholder k ++ rest = '{' :: (k.toList ++ ['}'] ++ rest) := rfl
        obtain ⟨rfl, rfl⟩ := List.cons.inj (hchars ▸ hrest)
        have hskip := templateFrom_skip keys (k.toList ++ ['}']) rest
        rw [List.length_append, List.length_singleton] at hskip
        dsimp only
        rw [hskip]
        exact place k rest hfind (ih _ (by simp [← hn]; omega) rest rfl)

theorem chars_template (keys : List String) (path : List Char) :
    chars (template keys path) = path := by
  refine template_induction keys (motive := fun path T => chars T = path) rfl ?_ ?_ path
  · intro k rest _ ih
    rw [chars_cons_inr, ih]
  · intro c cs _ ih
    rw [chars_cons_inl, ih]

theorem plainKeys_template (hkeys : ∀ k ∈ keys, IsPlain k) (path : List Char) :
    PlainKeys (template keys path) := by
  refine template_induction keys (motive := fun _ T => PlainKeys T) (fun k hk => by cases hk) ?_ ?_
    path
  · intro k rest hfind ih k' hk'
    rcases List.mem_cons.1 hk' with heq | hk'
    · exact Sum.inr.inj heq ▸ hkeys k (List.mem_of_find?_eq_some hfind)
    · exact ih k' hk'
  · intro c cs _ ih k' hk'
    exact ih k' ((List.mem_cons.1 hk').resolve_left (by simp))

/-- For plain keys it does not count in which order they are tried. -/
theorem template_congr {keys' : List String} (hkeys : ∀ k ∈ keys, IsPlain k)
    (h : ∀ k, k ∈ keys ↔ k ∈ keys') (path : List Char) :
    template keys path = template keys' path := by
  have hfind (cs : List Char) : (keys.find? fun k => (placeholder k).isPrefixOf cs) =
      keys'.find? fun k => (placeholder k).isPrefixOf cs := by
    -- Two plain keys do not both stand at one place.
    have hunique {k k' : String} (hk : k ∈ keys) (hk' : k' ∈ keys) (hcs : placeholder k <+: cs)
        (hcs' : placeholder k' <+: cs) : k = k' := by
      obtain ⟨rest, rfl⟩ := hcs'
      exact eq_of_placeholder (hkeys k hk) (hkeys k' hk') hcs
    cases hone : keys.find? fun k => (placeholder k).isPrefixOf cs with
    | none =>
      symm
      rw [List.find?_eq_none] at hone ⊢
      exact fun k hk => hone k ((h k).2 hk)
    | some k =>
      have hk := List.mem_of_find?_eq_some hone
      have hcs := prefix_of_find? hone
      cases hother : keys'.find? fun k => (placeholder k).isPrefixOf cs with
      | none =>
        exact (List.find?_eq_none.1 hother k ((h k).1 hk) (isPrefixOf_placeholder.2 hcs)).elim
      | some k' =>
        have hk' := (h k').2 (List.mem_of_find?_eq_some hother)
        rw [hunique hk hk' hcs (prefix_of_find? hother)]
  have hfrom (n : Nat) : templateFrom keys n path = templateFrom keys' n path := by
    induction path generalizing n with
    | nil => rfl
    | cons c cs ih =>
      cases n with
      | zero =>
        rw [templateFrom, templateFrom, hfind]
        split <;> rw [ih]
      | succ n => exact ih n
  exact hfrom 0

theorem substitute_eq (es : List (String × List Char)) (path : List Char) :
    substitute es path = chars ((template (es.map (·.1)) path).fill (Dict.find? · es)) := by
  have hfind {p : String → Bool} : (es.map (·.1)).find? p =
      (es.find? fun e => p e.1).map (·.1) := List.find?_map
  refine template_induction (es.map (·.1))
    (motive := fun path T => substitute es path = chars (T.fill (Dict.find? · es))) rfl ?_ ?_ path
  · intro k rest hplace ih
    rw [hfind] at hplace
    obtain ⟨⟨k, t⟩, he, rfl⟩ := Option.map_eq_some_iff.1 hplace
    -- the first parameter whose placeholder stands here is the first with its key
    have htext : Dict.find? k es = some t := by
      obtain ⟨hfront, before, after, rfl, hbefore⟩ := List.find?_eq_some_iff_append.1 he
      have hnone : Dict.find? k before = none := by
        refine Dict.find?_eq_none_iff.2 fun e' he' => ?_
        have hno := hbefore e' he'
        rw [Bool.not_eq_true'] at hno
        refine beq_eq_false_iff_ne.2 fun hkey => ?_
        rw [hkey, hfront] at hno
        cases hno
      rw [Dict.find?_append, hnone, Dict.find?, if_pos (beq_self_eq_true _)]
      rfl
    rw [substitute_place he, fill_cons_inr, htext, Option.elim_some, chars_append, chars_map_inl,
      ih]
  · intro c cs hnone ih
    rw [hfind, Option.map_eq_none_iff] at hnone
    rw [substitute_char hnone, fill_cons_inl, chars_cons_inl, ih]

end Reading

section Expanding

open Template

variable {T : Template} {params : List (String × Value)}

theorem find?_cons (e : String × List Char) (es : List (String × List Char)) :
    (Dict.find? · (e :: es)) = fun k => (only e.1 e.2 k).or (Dict.find? k es) := by
  funext k
  rw [Dict.find?, only]
  by_cases hk : e.1 = k
  · simp [hk]
  · rw [beq_eq_false_iff_ne.2 hk, if_neg (Ne.symm hk), Option.none_or]
    rfl

theorem infix_of_shows (h : Shows k T) (f : String → Option (List Char)) :
    placeholder k <:+: chars (T.fill f) := by
  obtain ⟨before, after, rfl⟩ := h
  rw [fill_append, fill_append, fill_map_inl, chars_append, chars_append, chars_map_inl]
  exact ⟨_, _, rfl⟩

/-- Parameters of which no placeholder is left do not come upon each other, in whatever order. -/
theorem inert_of_not_infix (h : ∀ e ∈ es, ¬ placeholder e.1 <:+: chars (T.fill (Dict.find? · es))) :
    Inert es T := by
  induction es generalizing T with
  | nil => trivial
  | cons e es ih =>
    obtain ⟨k, t⟩ := e
    obtain ⟨hk, hes⟩ := List.forall_mem_cons.1 h
    refine ⟨fun hshows => hk (infix_of_shows hshows _), ih ?_⟩
    rw [fill_fill, ← find?_cons (k, t)]
    exact hes

theorem texts_cons {v : Value} {text : String} (h : v.text? = some text) :
    texts ((k, v) :: params) = (k, text.toList) :: texts params := by
  rw [texts, List.map_cons, h]
  rfl

theorem replaceAll_eq (k : String) (t path : List Char) :
    Text.replaceAll (placeholder k) t path = substitute [(k, t)] path := by
  have hfrom (n : Nat) :
      Text.replaceFrom (placeholder k) t n path = substituteFrom [(k, t)] n path := by
    induction path generalizing n with
    | nil => cases n <;> rfl
    | cons c cs ih =>
      cases n with
      | succ n => exact ih n
      | zero =>
        rw [Text.replaceFrom, substituteFrom, List.find?_singleton, placeholder_length, ih, ih]
        split <;> rfl
  exact hfrom 0

theorem expand_eq (htexts : ∀ e ∈ params, ∃ t, e.2.text? = some t) (path : List Char) :
    expand params path = .ok ((texts params).foldl (fun cs e => substitute [e] cs) path) := by
  induction params generalizing path with
  | nil => rfl
  | cons e params ih =>
    obtain ⟨k, v⟩ := e
    obtain ⟨⟨t, ht⟩, htexts⟩ := List.forall_mem_cons.1 htexts
    rw [texts_cons ht, List.foldl_cons, expand, ht]
    dsimp only
    rw [ih htexts, replaceAll_eq]

/-- Parameters that do not come upon each other are filled in one after the other as all at once. -/
theorem expand_chars (hkeys : ∀ e ∈ params, IsPlain e.1)
    (htexts : ∀ e ∈ params, ∃ t, e.2.text? = some t) (hT : PlainKeys T)
    (h : Inert (texts params) T) :
    expand params (chars T) = .ok (chars (T.fill (Dict.find? · (texts params)))) := by
  induction params generalizing T with
  | nil =>
    have hnone : (Dict.find? · (texts [])) = fun _ => none := rfl
    rw [hnone, fill_none]
    rfl
  | cons e params ih =>
    obtain ⟨k, v⟩ := e
    obtain ⟨hk, hkeys⟩ := List.forall_mem_cons.1 hkeys
    obtain ⟨⟨t, ht⟩, htexts⟩ := List.forall_mem_cons.1 htexts
    rw [texts_cons ht] at h ⊢
    obtain ⟨hshows, hinert⟩ := h
    rw [expand, ht]
    dsimp only
    rw [replaceAll_eq, substitute_chars hk hT hshows, ih hkeys htexts (hT.fill _) hinert, fill_fill,
      find?_cons]

end Expanding

section Order

variable {params params' : Slot}

theorem find?_texts (params : Slot) (k : String) : Dict.find? k (texts params.entries) =
    (params.get? k).map fun v => (v.text?.getD "").toList :=
  Dict.find?_map (fun v : Value => (v.text?.getD "").toList) k params.entries

theorem keys_texts (params : Slot) : (texts params.entries).map (·.1) = params.keys := by
  rw [texts, List.map_map]
  rfl

/-- All at once, parameters are filled in alike in whatever order they are given. -/
theorem substitute_perm (hkeys : ∀ k ∈ params.keys, IsPlain k)
    (h : params'.entries.Perm params.entries) (path : List Char) :
    substitute (texts params'.entries) path = substitute (texts params.entries) path := by
  have hmem (k : String) : k ∈ params.keys ↔ k ∈ params'.keys := (h.map (·.1)).mem_iff.symm
  have hfind (k : String) :
      Dict.find? k (texts params'.entries) = Dict.find? k (texts params.entries) := by
    have hget : params'.get? k = params.get? k := by
      ext v
      rw [Dict.get?_eq_some_iff, Dict.get?_eq_some_iff, h.mem_iff]
    rw [find?_texts, find?_texts, hget]
  rw [substitute_eq, substitute_eq, keys_texts, keys_texts, template_congr hkeys hmem, funext hfind]

/-- Parameters that have texts are filled in one after the other, each in the path that those before
it have made. The result is that of filling in all of them at once if no text that is filled in
brings a place for a later parameter, or makes one with what stands around it. If what comes of
filling in all at once has no place for any of them, then this is the result in whatever order they
are given. -/
theorem expandValue_exact {params : Slot} (hkeys : ∀ k ∈ params.keys, IsPlain k)
    (htexts : ∀ v ∈ params.values, ∃ t, v.text? = some t) (path : String) :
    expandValue params (.str path) = .ok (.str (String.ofList
      ((texts params.entries).foldl (fun cs e => substitute [e] cs) path.toList))) ∧
    (Inert (texts params.entries) (template params.keys path.toList) →
      expandValue params (.str path) =
        .ok (.str (String.ofList (substitute (texts params.entries) path.toList)))) ∧
    ((∀ k ∈ params.keys, ¬ placeholder k <:+: substitute (texts params.entries) path.toList) →
      ∀ params' : Slot, params'.entries.Perm params.entries → expandValue params' (.str path) =
        .ok (.str (String.ofList (substitute (texts params.entries) path.toList)))) := by
  have htext {es : List (String × Value)} (h : es.Perm params.entries) :
      ∀ e ∈ es, ∃ t, e.2.text? = some t :=
    fun e he => htexts e.2 (List.mem_map_of_mem (h.mem_iff.1 he))
  have hinert {params' : Slot} (h : params'.entries.Perm params.entries)
      (hinert : Inert (texts params'.entries) (template params'.keys path.toList)) :
      expandValue params' (.str path) =
        .ok (.str (String.ofList (substitute (texts params.entries) path.toList))) := by
    have hkeys' : ∀ k ∈ params'.keys, IsPlain k := fun k hk =>
      hkeys k ((h.map (·.1)).mem_iff.1 hk)
    have hexpand := expand_chars (fun e he => hkeys' e.1 (List.mem_map_of_mem he)) (htext h)
      (plainKeys_template hkeys' path.toList) hinert
    rw [chars_template, ← keys_texts, ← substitute_eq, substitute_perm hkeys h] at hexpand
    rw [expandValue, hexpand]
    rfl
  refine ⟨?_, fun h => hinert (.refl _) h, fun h params' hperm => hinert hperm ?_⟩
  · rw [expandValue, expand_eq (htext (.refl _))]
    rfl
  · refine inert_of_not_infix fun e he => ?_
    obtain ⟨e', he', rfl⟩ := List.mem_map.1 he
    rw [← keys_texts, ← substitute_eq, substitute_perm hkeys hperm]
    exact h e'.1 (List.mem_map_of_mem (hperm.mem_iff.1 he'))

/-- The second text has braces, but names none of the parameters. -/
def numbered : Slot := .ofList [("x", .int 1), ("y", .str "{z}")]

theorem expandValue_exact_numbered :
    ((∀ k ∈ numbered.keys, IsPlain k) ∧ (∀ v ∈ numbered.values, ∃ t, v.text? = some t) ∧
      Inert (texts numbered.entries) (template numbered.keys "/{x}/{y}/{w}".toList) ∧
      ∀ k ∈ numbered.keys,
        ¬ placeholder k <:+: substitute (texts numbered.entries) "/{x}/{y}/{w}".toList) ∧
    expandValue numbered (.str "/{x}/{y}/{w}") = .ok (.str "/1/{z}/{w}") ∧
    expandValue (.ofList [("y", .str "{z}"), ("x", .int 1)]) (.str "/{x}/{y}/{w}") =
      .ok (.str "/1/{z}/{w}") := by
  have hkeys : ∀ k ∈ numbered.keys, IsPlain k := by decide +kernel
  have htexts : ∀ v ∈ numbered.values, ∃ t, v.text? = some t := by
    have hsome : ∀ v ∈ numbered.values, v.text?.isSome := by decide +kernel
    exact fun v hv => Option.isSome_iff_exists.1 (hsome v hv)
  have hinert : Inert (texts numbered.entries) (template numbered.keys "/{x}/{y}/{w}".toList) := by
    decide +kernel
  have hleft : ∀ k ∈ numbered.keys,
      ¬ placeholder k <:+: substitute (texts numbered.entries) "/{x}/{y}/{w}".toList := by
    decide +kernel
  have hfilled : String.ofList (substitute (texts numbered.entries) "/{x}/{y}/{w}".toList) =
      "/1/{z}/{w}" := by decide +kernel
  have hswapped : (Dict.ofList [("y", Value.str "{z}"), ("x", .int 1)]).entries.Perm
      numbered.entries := .swap _ _ _
  obtain ⟨-, honce, horder⟩ := expandValue_exact hkeys htexts "/{x}/{y}/{w}"
  refine ⟨⟨hkeys, htexts, hinert, hleft⟩, ?_, ?_⟩
  · rw [honce hinert, hfilled]
  · rw [horder hleft _ hswapped, hfilled]

/-- The first text names the second parameter, which is filled in where the path had no place for
it; in the other order it is not. -/
def nested : Slot := .ofList [("x", .str "{y}"), ("y", .int 1)]

theorem expandValue_refills : ¬ ∀ (params : Slot) (path : String),
    (∀ k ∈ params.keys, IsPlain k) → (∀ v ∈ params.values, ∃ t, v.text? = some t) →
      expandValue params (.str path) =
        .ok (.str (String.ofList (substitute (texts params.entries) path.toList))) ∧
      ∀ params' : Slot, params'.entries.Perm params.entries →
        expandValue params' (.str path) = expandValue params (.str path) := by
  intro h
  have hsome : ∀ v ∈ nested.values, v.text?.isSome := by decide +kernel
  obtain ⟨honce, -⟩ := h nested "/a/{x}/{y}" (by decide +kernel)
    fun v hv => Option.isSome_iff_exists.1 (hsome v hv)
  have hrefilled : expandValue nested (.str "/a/{x}/{y}") = .ok (.str "/a/1/1") := by rfl
  have hfilled : String.ofList (substitute (texts nested.entries) "/a/{x}/{y}".toList) =
      "/a/{y}/1" := by decide +kernel
  rw [hrefilled, hfilled] at honce
  exact absurd honce (by simp)

end Order

end Runbook.PathTemplate
