import Runbook.Proofs.Json.Reading

namespace Runbook.Json

namespace Style

open Token

variable {st : Style} {j : Json} {es : List (String × Json)}

/-- There is something wrong in the text of a document, whatever comes behind. -/
def Spoils (st : Style) (j : Json) : Prop :=
  ∀ rest, EndsWord rest → ∃ f, bad f ∈ ofText (st.chars j ++ rest)

theorem spoils_int {n : Int} (h : Numeral.digitLimit < (natDigits n.natAbs).length) :
    st.Spoils (.int n) := by
  intro rest hrest
  have hne : intDigits n ≠ [] := by
    rw [intDigits]
    split
    · exact List.cons_ne_nil _ _
    · exact natDigits_ne_nil _
  refine ⟨.longNumber, ?_⟩
  rw [chars, ofText_run (fun c hc => isWordChar_of_mem_intDigits hc) hne hrest, word_longDigits h]
  exact List.mem_singleton_self _

theorem spoils_entryChars (hst : st.Plain) (hes : ∀ e ∈ es, st.Cuts e.2) (hj : st.Spoils j)
    (k : String) (fs : List (String × Json)) (rest : List Char) :
    ∃ f, bad f ∈ ofText (entryChars st (es ++ (k, j) :: fs) ++ rest) := by
  induction es with
  | nil =>
    obtain ⟨f, hf⟩ := hj _ (endsWord_entryChars hst fs rest)
    refine ⟨f, ?_⟩
    simp only [List.nil_append, entryChars, List.append_assoc]
    rw [hst.ofText_comma, ofText_quotedText, hst.ofText_colon]
    simp [hf]
  | cons e es ih =>
    obtain ⟨he, hes⟩ := List.forall_mem_cons.1 hes
    obtain ⟨f, hf⟩ := ih hes
    refine ⟨f, ?_⟩
    simp only [List.cons_append, entryChars, List.append_assoc]
    rw [hst.ofText_comma, ofText_quotedText, hst.ofText_colon,
      he _ (endsWord_entryChars hst _ rest)]
    simp [hf]

theorem ofText_entries (hst : st.Plain) (e : String × Json) (es : List (String × Json))
    (rest : List Char) :
    ∃ ts, ofText (chars st (.map (e :: es)) ++ rest) = .openMap :: ts ∧
      ofText (entryChars st (e :: es) ++ rest) = .comma :: ts := by
  simp only [chars, entryChars, List.cons_append, List.append_assoc]
  exact ⟨_, ofText_openMap _, hst.ofText_comma _⟩

theorem spoils_map (hst : st.Plain) (hes : ∀ e ∈ es, st.Cuts e.2) (hj : st.Spoils j)
    (k : String) (fs : List (String × Json)) : st.Spoils (.map (es ++ (k, j) :: fs)) := by
  intro rest _
  obtain ⟨f, hf⟩ := spoils_entryChars hst hes hj k fs rest
  obtain ⟨e, es', hentries⟩ := List.exists_cons_of_ne_nil (l := es ++ (k, j) :: fs) (by simp)
  rw [hentries] at hf ⊢
  obtain ⟨ts, hmap, hcomma⟩ := ofText_entries hst e es' rest
  rw [hcomma] at hf
  refine ⟨f, ?_⟩
  rw [hmap]
  simpa using hf

theorem Spoils.read (h : st.Spoils j) (depth : Option Nat) (k : Json) :
    read depth (st.chars j) ≠ .ok k := by
  intro hread
  obtain ⟨f, hf⟩ := h [] endsWord_nil
  rw [List.append_nil] at hf
  exact bad_not_mem_of_ofTokens hread f hf

end Style

section Depth

def deep : Nat → Json
  | 0 => .list []
  | n + 1 => .list [deep n]

theorem readable_deep (n : Nat) : (deep n).Readable n := by
  induction n with
  | zero => exact .emptyList
  | succ n ih => exact .list (List.forall_mem_singleton.2 ih)

theorem tokens_deep (n : Nat) : ∃ ts, (deep n).tokens = List.replicate (n + 1) .openList ++ ts := by
  induction n with
  | zero => exact ⟨[.closeList], rfl⟩
  | succ n ih =>
    obtain ⟨ts, hts⟩ := ih
    exact ⟨ts ++ [.closeList], by simp [deep, tokens, itemTokens, hts, List.replicate_succ]⟩

theorem Progress.foldlM_openLists {m n : Nat} {stack : List Frame} {e : Expected} {r : Json}
    (he : Expected.IsStart e) (h : m < stack.length + n) (ts : List Token) :
    ∃ f, (List.replicate (n + 1) Token.openList ++ ts).foldlM (step (some m)) ⟨stack, e, r⟩ =
      .error f := by
  rw [List.replicate_succ, List.cons_append, List.foldlM_cons]
  by_cases hroom : stack.length ≤ m
  · rw [step_begin he (fun k hk => Option.some.inj hk ▸ hroom) (by simp)]
    cases n with
    | zero => omega
    | succ n => exact foldlM_openLists (.inr rfl) (by simp only [List.length_cons]; omega) ts
  · have hdeep : within (some m) ⟨stack, e, r⟩ (begin ⟨stack, e, r⟩ .openList) =
        .error .malformed := if_neg (by simpa using hroom)
    have hstep : step (some m) ⟨stack, e, r⟩ .openList = .error .malformed := by
      rcases he with rfl | rfl
      · exact hdeep
      · exact hdeep
    exact ⟨.malformed, by rw [hstep]; rfl⟩

end Depth

end Runbook.Json
