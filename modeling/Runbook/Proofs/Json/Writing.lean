import Mathlib.Data.List.TakeWhile
import Runbook.Proofs.Json.Token

namespace Runbook.Json

/-- Documents that are read as they were written, where lists and mappings that are not empty are
nested at most `d` deep: no whole number has too many digits, every other number is finite, and no
mapping has a key twice. -/
inductive Readable : Nat → Json → Prop
  | null {d : Nat} : Readable d .null
  | bool {d : Nat} (b : Bool) : Readable d (.bool b)
  | int {d : Nat} {n : Int} (h : (natDigits n.natAbs).length ≤ Numeral.digitLimit) :
    Readable d (.int n)
  | float {d : Nat} (s : Bool) (m : Magnitude) : Readable d (.float (.finite s m))
  | str {d : Nat} (s : String) : Readable d (.str s)
  | emptyList {d : Nat} : Readable d (.list [])
  | emptyMap {d : Nat} : Readable d (.map [])
  | list {d : Nat} {js : List Json} (h : ∀ j ∈ js, Readable d j) : Readable (d + 1) (.list js)
  | map {d : Nat} {es : List (String × Json)} (hkeys : (es.map (·.1)).Nodup)
    (h : ∀ e ∈ es, Readable d e.2) : Readable (d + 1) (.map es)

mutual

def tokens : Json → List Token
  | .str s => [.text s]
  | .list [] => [.openList, .closeList]
  | .list (j :: js) => .openList :: (tokens j ++ itemTokens js)
  | .map [] => [.openMap, .closeMap]
  | .map ((k, j) :: es) => .openMap :: .text k :: .colon :: (tokens j ++ entryTokens es)
  | j => [.atom j]

def itemTokens : List Json → List Token
  | [] => [.closeList]
  | j :: js => .comma :: (tokens j ++ itemTokens js)

def entryTokens : List (String × Json) → List Token
  | [] => [.closeMap]
  | (k, j) :: es => .comma :: .text k :: .colon :: (tokens j ++ entryTokens es)

end

namespace Style

open Token

/-- What separates pieces is a comma or a colon with blanks behind it. -/
structure Plain (st : Style) : Prop where
  comma : ∃ n, st.comma.toList = ',' :: List.replicate n ' '
  colon : ∃ n, st.colon.toList = ':' :: List.replicate n ' '

variable {st : Style} {d : Nat} {j : Json}

theorem ofText_blanks (n : Nat) (rest : List Char) :
    ofText (List.replicate n ' ' ++ rest) = ofText rest :=
  ofText_spaces (fun _ hc => List.eq_of_mem_replicate hc ▸ rfl) rest

theorem Plain.ofText_comma (h : st.Plain) (rest : List Char) :
    ofText (st.comma.toList ++ rest) = .comma :: ofText rest := by
  obtain ⟨n, hn⟩ := h.comma
  rw [hn, List.cons_append, ofText_cons]
  exact congrArg (Token.comma :: ·) (ofText_blanks n rest)

theorem Plain.ofText_colon (h : st.Plain) (rest : List Char) :
    ofText (st.colon.toList ++ rest) = .colon :: ofText rest := by
  obtain ⟨n, hn⟩ := h.colon
  rw [hn, List.cons_append, ofText_cons]
  exact congrArg (Token.colon :: ·) (ofText_blanks n rest)

theorem ofText_openList (cs : List Char) : ofText ('[' :: cs) = .openList :: ofText cs := by
  rw [ofText_cons]
  rfl

theorem ofText_closeList (cs : List Char) : ofText (']' :: cs) = .closeList :: ofText cs := by
  rw [ofText_cons]
  rfl

theorem ofText_openMap (cs : List Char) : ofText ('{' :: cs) = .openMap :: ofText cs := by
  rw [ofText_cons]
  rfl

theorem ofText_closeMap (cs : List Char) : ofText ('}' :: cs) = .closeMap :: ofText cs := by
  rw [ofText_cons]
  rfl

theorem ofText_quotedText (asciiOnly : Bool) (s : String) (rest : List Char) :
    ofText (quotedText asciiOnly s ++ rest) = .text s :: ofText rest := by
  have hlex : lex '"' (s.toList.flatMap (charText asciiOnly) ++ '"' :: rest) =
      ([.text s], some rest) := by
    have hlength := length_le_flatMap_charText asciiOnly s.toList
    rw [lex, if_neg (by decide), if_neg (by decide), if_neg (by decide), if_neg (by decide),
      if_neg (by decide), if_neg (by decide), if_neg (by decide), if_pos rfl,
      quoted?_flatMap asciiOnly (by rw [List.length_append]; omega)]
    dsimp only
    rw [String.ofList_toList]
  rw [quotedText, List.cons_append, List.append_assoc, List.singleton_append, ofText_cons, hlex]
  rfl

theorem ofText_run {w rest : List Char} (hw : ∀ c ∈ w, isWordChar c = true) (hne : w ≠ [])
    (hrest : EndsWord rest) :
    ofText (w ++ rest) = match word w with
      | .ok j => .atom j :: ofText rest
      | .error f => [.bad f] := by
  cases w with
  | nil => exact (hne rfl).elim
  | cons c cs =>
    obtain ⟨hc, hcs⟩ := List.forall_mem_cons.1 hw
    have hne {x : Char} (hx : isWordChar x = false) : c ≠ x := by
      rintro rfl
      rw [hc] at hx
      cases hx
    have hspace : ¬ isSpace c = true := by
      simp only [isSpace, Bool.or_eq_true, beq_iff_eq, not_or]
      exact ⟨⟨⟨hne (by decide), hne (by decide)⟩, hne (by decide)⟩, hne (by decide)⟩
    have htake : (cs ++ rest).takeWhile isWordChar = cs := by
      rw [(takeWhile_append hrest cs).1, List.takeWhile_eq_self_iff.2 hcs]
    have hdrop : (cs ++ rest).dropWhile isWordChar = rest := by
      rw [(takeWhile_append hrest cs).2, List.dropWhile_eq_nil_iff.2 hcs, List.nil_append]
    rw [List.cons_append, ofText_cons, lex, if_neg hspace, if_neg (hne (by decide)),
      if_neg (hne (by decide)), if_neg (hne (by decide)), if_neg (hne (by decide)),
      if_neg (hne (by decide)), if_neg (hne (by decide)), if_neg (hne (by decide)), if_pos hc,
      htake, hdrop]
    cases word (c :: cs) <;> rfl

theorem ofText_word {w rest : List Char} (hw : ∀ c ∈ w, isWordChar c = true) (hread : word w = .ok j)
    (hrest : EndsWord rest) : ofText (w ++ rest) = .atom j :: ofText rest := by
  have hne : w ≠ [] := by
    rintro rfl
    cases hread
  rw [ofText_run hw hne hrest, hread]

theorem isWordChar_of_mem_intDigits {n : Int} {c : Char} (h : c ∈ intDigits n) :
    isWordChar c = true := by
  rw [intDigits] at h
  split at h
  · rcases List.mem_cons.1 h with rfl | h
    · rfl
    · exact isWordChar_of_isNumberChar (isNumberChar_of_mem_natDigits h)
  · exact isWordChar_of_isNumberChar (isNumberChar_of_mem_natDigits h)

theorem isWordChar_of_mem_finite {l : NumberLayout} {s : Bool} {m : Magnitude} {c : Char}
    (h : c ∈ (l.text (.finite s m)).toList) : isWordChar c = true := by
  rw [NumberLayout.text, String.toList_ofList] at h
  rcases List.mem_append.1 h with h | h
  · cases s with
    | true => exact List.mem_singleton.1 h ▸ rfl
    | false => cases h
  · exact isWordChar_of_isNumberChar (isNumberChar_of_mem_magnitudeText h)

theorem endsWord_itemChars (h : st.Plain) (js : List Json) (rest : List Char) :
    EndsWord (itemChars st js ++ rest) := by
  obtain ⟨n, hn⟩ := h.comma
  cases js with
  | nil => exact endsWord_cons (by decide)
  | cons j js =>
    rw [itemChars, hn]
    exact endsWord_cons (by decide)

theorem endsWord_entryChars (h : st.Plain) (es : List (String × Json)) (rest : List Char) :
    EndsWord (entryChars st es ++ rest) := by
  obtain ⟨n, hn⟩ := h.comma
  cases es with
  | nil => exact endsWord_cons (by decide)
  | cons e es =>
    rw [entryChars, hn]
    exact endsWord_cons (by decide)

/-- The text of a document is cut into its tokens, whatever comes behind. -/
def Cuts (st : Style) (j : Json) : Prop :=
  ∀ rest, EndsWord rest → ofText (st.chars j ++ rest) = tokens j ++ ofText rest

theorem ofText_itemChars (hst : st.Plain) {js : List Json} (h : ∀ j ∈ js, st.Cuts j)
    (rest : List Char) : ofText (itemChars st js ++ rest) = itemTokens js ++ ofText rest := by
  induction js with
  | nil =>
    exact ofText_closeList rest
  | cons j js ih =>
    obtain ⟨hj, hjs⟩ := List.forall_mem_cons.1 h
    rw [itemChars, List.append_assoc, List.append_assoc, hst.ofText_comma,
      hj _ (endsWord_itemChars hst js rest), ih hjs, itemTokens, List.cons_append,
      List.append_assoc]

theorem ofText_entryChars (hst : st.Plain) {es : List (String × Json)}
    (h : ∀ e ∈ es, st.Cuts e.2) (rest : List Char) :
    ofText (entryChars st es ++ rest) = entryTokens es ++ ofText rest := by
  induction es with
  | nil =>
    exact ofText_closeMap rest
  | cons e es ih =>
    obtain ⟨k, j⟩ := e
    obtain ⟨hj, hes⟩ := List.forall_mem_cons.1 h
    simp only [entryChars, List.append_assoc]
    rw [hst.ofText_comma, ofText_quotedText, hst.ofText_colon,
      hj _ (endsWord_entryChars hst es rest), ih hes, entryTokens]
    simp only [List.cons_append, List.append_assoc]

theorem cuts_list (hst : st.Plain) {js : List Json} (h : ∀ j ∈ js, st.Cuts j) :
    st.Cuts (.list js) := by
  intro rest _
  cases js with
  | nil =>
    rw [chars, List.cons_append, List.singleton_append, ofText_openList, ofText_closeList]
    rfl
  | cons j js =>
    obtain ⟨hj, hjs⟩ := List.forall_mem_cons.1 h
    rw [chars, List.cons_append, List.append_assoc, ofText_openList,
      hj _ (endsWord_itemChars hst js rest), ofText_itemChars hst hjs, tokens, List.cons_append,
      List.append_assoc]

theorem cuts_map (hst : st.Plain) {es : List (String × Json)} (h : ∀ e ∈ es, st.Cuts e.2) :
    st.Cuts (.map es) := by
  intro rest _
  cases es with
  | nil =>
    rw [chars, List.cons_append, List.singleton_append, ofText_openMap, ofText_closeMap]
    rfl
  | cons e es =>
    obtain ⟨k, j⟩ := e
    obtain ⟨hj, hes⟩ := List.forall_mem_cons.1 h
    simp only [chars, List.cons_append, List.append_assoc]
    rw [ofText_openMap, ofText_quotedText, hst.ofText_colon,
      hj _ (endsWord_entryChars hst es rest), ofText_entryChars hst hes, tokens]
    simp only [List.cons_append, List.append_assoc]

theorem ofText_chars (hst : st.Plain) (h : j.Readable d) : st.Cuts j := by
  induction h with
  | null =>
    exact fun rest hrest =>
      ofText_word (w := "null".toList) (List.all_eq_true.1 (by decide)) rfl hrest
  | bool b =>
    intro rest hrest
    cases b
    · exact ofText_word (w := "false".toList) (List.all_eq_true.1 (by decide)) rfl hrest
    · exact ofText_word (w := "true".toList) (List.all_eq_true.1 (by decide)) rfl hrest
  | int h =>
    exact fun rest hrest =>
      ofText_word (fun c hc => isWordChar_of_mem_intDigits hc) (word_intDigits h) hrest
  | float s m =>
    intro rest hrest
    have hread : word (st.numbers.text (.finite s m)).toList = .ok (.float (.finite s m)) := by
      rw [NumberLayout.text, String.toList_ofList]
      exact word_magnitudeText st.numbers s m
    exact ofText_word (fun c hc => isWordChar_of_mem_finite hc) hread hrest
  | str s => exact fun rest _ => ofText_quotedText st.asciiOnly s rest
  | emptyList => exact cuts_list hst (List.forall_mem_nil _)
  | emptyMap => exact cuts_map hst (List.forall_mem_nil _)
  | list h ih => exact cuts_list hst ih
  | map hkeys h ih => exact cuts_map hst ih

def isShown (c : Char) : Bool := 0x20 ≤ c.toNat

theorem isShown_of_isWordChar {c : Char} (h : isWordChar c = true) : isShown c = true := by
  by_contra hc
  have hsmall : ∀ n < 0x20, isWordChar (Char.ofNat n) = false := by decide
  have hno := hsmall c.toNat (by simpa [isShown] using hc)
  rw [Char.ofNat_toNat, h] at hno
  cases hno

theorem isShown_hexDigit (n : Nat) : isShown (hexDigit (n % 16)) = true := by
  have hall : ∀ n < 16, isShown (hexDigit n) = true := by decide
  exact hall _ (Nat.mod_lt _ (by decide))

theorem isShown_of_mem_unitEscape {n : Nat} {c : Char} (h : c ∈ unitEscape n) :
    isShown c = true := by
  simp only [unitEscape, List.mem_cons, List.not_mem_nil, or_false] at h
  rcases h with rfl | rfl | rfl | rfl | rfl | rfl
  · rfl
  · rfl
  all_goals exact isShown_hexDigit _

theorem isShown_of_mem_charText {asciiOnly : Bool} {x c : Char} (h : c ∈ charText asciiOnly x) :
    isShown c = true := by
  have hpair {a b : Char} (ha : isShown a = true) (hb : isShown b = true) (h : c ∈ [a, b]) :
      isShown c = true := by
    rcases List.mem_cons.1 h with rfl | h
    · exact ha
    · exact List.mem_singleton.1 h ▸ hb
  rw [charText] at h
  iterate 7
    split at h
    · exact hpair rfl rfl h
  split at h
  · rw [unitEscapes] at h
    split at h
    · exact isShown_of_mem_unitEscape h
    · exact (List.mem_append.1 h).elim isShown_of_mem_unitEscape isShown_of_mem_unitEscape
  · rename_i hplain
    rw [Bool.or_eq_true, not_or, decide_eq_true_iff, Nat.not_lt] at hplain
    exact List.mem_singleton.1 h ▸ decide_eq_true hplain.1

theorem isShown_of_mem_quotedText {asciiOnly : Bool} {s : String} {c : Char}
    (h : c ∈ quotedText asciiOnly s) : isShown c = true := by
  rw [quotedText] at h
  rcases List.mem_cons.1 h with rfl | h
  · rfl
  rcases List.mem_append.1 h with h | h
  · obtain ⟨x, -, hx⟩ := List.mem_flatMap.1 h
    exact isShown_of_mem_charText hx
  · exact List.mem_singleton.1 h ▸ rfl

theorem isShown_of_mem_separator {text : List Char} {mark c : Char} (hmark : isShown mark = true)
    (h : ∃ n, text = mark :: List.replicate n ' ') (hc : c ∈ text) : isShown c = true := by
  obtain ⟨n, rfl⟩ := h
  rcases List.mem_cons.1 hc with rfl | hc
  · exact hmark
  · exact List.eq_of_mem_replicate hc ▸ rfl

theorem isShown_itemChars (hst : st.Plain) {js : List Json}
    (h : ∀ j ∈ js, ∀ c ∈ st.chars j, isShown c = true) :
    ∀ c ∈ itemChars st js, isShown c = true := by
  induction js with
  | nil => exact fun c hc => List.mem_singleton.1 hc ▸ rfl
  | cons j js ih =>
    obtain ⟨hj, hjs⟩ := List.forall_mem_cons.1 h
    simp only [itemChars, List.forall_mem_append]
    exact ⟨⟨fun c hc => isShown_of_mem_separator rfl hst.comma hc, hj⟩, ih hjs⟩

theorem isShown_entryChars (hst : st.Plain) {es : List (String × Json)}
    (h : ∀ e ∈ es, ∀ c ∈ st.chars e.2, isShown c = true) :
    ∀ c ∈ entryChars st es, isShown c = true := by
  induction es with
  | nil => exact fun c hc => List.mem_singleton.1 hc ▸ rfl
  | cons e es ih =>
    obtain ⟨k, j⟩ := e
    obtain ⟨hj, hes⟩ := List.forall_mem_cons.1 h
    simp only [entryChars, List.forall_mem_append]
    exact ⟨⟨⟨⟨fun c hc => isShown_of_mem_separator rfl hst.comma hc,
      fun c hc => isShown_of_mem_quotedText hc⟩,
      fun c hc => isShown_of_mem_separator rfl hst.colon hc⟩, hj⟩, ih hes⟩

/-- The text of a document has no line ends and no other control characters. -/
theorem isShown_chars (hst : st.Plain) (h : j.Readable d) :
    ∀ c ∈ st.chars j, isShown c = true := by
  have hall : (["null", "true", "false", "[]", "\x7b\x7d"].map String.toList).all
      (·.all isShown) = true := by
    decide
  have hclosed := fun cs hcs => List.all_eq_true.1 (List.all_eq_true.1 hall cs hcs)
  induction h with
  | null => exact hclosed "null".toList (by decide)
  | bool b =>
    cases b
    · exact hclosed "false".toList (by decide)
    · exact hclosed "true".toList (by decide)
  | int h => exact fun c hc => isShown_of_isWordChar (isWordChar_of_mem_intDigits hc)
  | float s m => exact fun c hc => isShown_of_isWordChar (isWordChar_of_mem_finite hc)
  | str s => exact fun c hc => isShown_of_mem_quotedText hc
  | emptyList => exact hclosed ['[', ']'] (by decide)
  | emptyMap => exact hclosed ['{', '}'] (by decide)
  | @list d js h ih =>
    cases js with
    | nil => exact hclosed ['[', ']'] (by decide)
    | cons j js =>
      obtain ⟨hj, hjs⟩ := List.forall_mem_cons.1 ih
      rw [chars, List.forall_mem_cons, List.forall_mem_append]
      exact ⟨rfl, hj, isShown_itemChars hst hjs⟩
  | @map d es hkeys h ih =>
    cases es with
    | nil => exact hclosed ['{', '}'] (by decide)
    | cons e es =>
      obtain ⟨k, j⟩ := e
      obtain ⟨hj, hes⟩ := List.forall_mem_cons.1 ih
      simp only [chars, List.forall_mem_cons, List.forall_mem_append]
      exact ⟨rfl, ⟨⟨fun c hc => isShown_of_mem_quotedText hc,
        fun c hc => isShown_of_mem_separator rfl hst.colon hc⟩, hj⟩, isShown_entryChars hst hes⟩

end Style

end Runbook.Json
