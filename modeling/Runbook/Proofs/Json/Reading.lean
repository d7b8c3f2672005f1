import Runbook.Json.Reading
import Runbook.Proofs.Dict
import Runbook.Proofs.Json.Writing

namespace Runbook.Json

namespace Progress

variable {depth : Option Nat} {stack : List Frame} {e : Expected} {r : Json} {d : Nat}

def Expected.IsStart (e : Expected) : Prop := e = .value ∨ e = .valueOrClose

theorem within_of_le {p : Progress} (h : ∀ m ∈ depth, p.stack.length ≤ m)
    (next : Except ReadFault Progress) : within depth p next = next := by
  cases depth with
  | none => rfl
  | some m => exact if_pos (decide_eq_true (h m rfl))

theorem step_begin (he : Expected.IsStart e) (h : ∀ m ∈ depth, stack.length ≤ m) {t : Token}
    (ht : t ≠ .closeList) : step depth ⟨stack, e, r⟩ t = begin ⟨stack, e, r⟩ t := by
  rcases he with rfl | rfl
  · exact within_of_le h _
  · cases t with
    | closeList => exact (ht rfl).elim
    | _ => exact within_of_le h _

theorem step_key (h : ∀ m ∈ depth, stack.length + 1 ≤ m) (entries : Dict String Json) (k : String) :
    step depth ⟨.map entries :: stack, .keyOrClose, r⟩ (.text k) =
      .ok ⟨.entry entries k :: stack, .colon, r⟩ :=
  within_of_le h _

theorem foldlM_one (f : Progress → Token → Except ReadFault Progress) (p : Progress) (t : Token) :
    [t].foldlM f p = f p t := by
  rw [List.foldlM_cons]
  cases f p t <;> rfl

/-- Wherever a value may start the tokens of the document are given as a whole, if there is room for
what is nested `d` deep. -/
def Gives (depth : Option Nat) (d : Nat) (j : Json) : Prop :=
  ∀ (stack : List Frame) (e : Expected) (r : Json), Expected.IsStart e →
    (∀ m ∈ depth, stack.length + d ≤ m) →
      j.tokens.foldlM (step depth) ⟨stack, e, r⟩ = give stack j

theorem gives_atom {t : Token} {j : Json} (htokens : j.tokens = [t]) (ht : t ≠ .closeList)
    (hgive : ∀ p, begin p t = give p.stack j) : Gives depth d j := by
  intro stack e r he hroom
  have hstep := step_begin (r := r) he (fun m hm => Nat.le_of_add_right_le (hroom m hm)) ht
  rw [htokens, foldlM_one, hstep, hgive]

theorem foldlM_tokens_append {j : Json} (hj : Gives depth d j) (he : Expected.IsStart e)
    (hroom : ∀ m ∈ depth, stack.length + d ≤ m) (ts : List Token) :
    (j.tokens ++ ts).foldlM (step depth) ⟨stack, e, r⟩ = give stack j >>= ts.foldlM (step depth) := by
  rw [List.foldlM_append, hj stack e r he hroom]

theorem foldlM_itemTokens {js : List Json} (h : ∀ j ∈ js, Gives depth d j)
    (hroom : ∀ m ∈ depth, stack.length + 1 + d ≤ m) (items : List Json) :
    (itemTokens js).foldlM (step depth) ⟨.list items :: stack, .commaOrClose, r⟩ =
      give stack (.list (items.reverse ++ js)) := by
  -- What has been read stands in the open frame, latest first.
  induction js generalizing items r with
  | nil =>
    rw [itemTokens, List.append_nil]
    exact foldlM_one _ _ _
  | cons j js ih =>
    obtain ⟨hj, hjs⟩ := List.forall_mem_cons.1 h
    rw [itemTokens, List.foldlM_cons]
    change (tokens j ++ itemTokens js).foldlM (step depth) ⟨.list items :: stack, .value, r⟩ = _
    rw [foldlM_tokens_append hj (.inl rfl) (by simpa using hroom)]
    change (itemTokens js).foldlM (step depth) ⟨.list (j :: items) :: stack, .commaOrClose, .null⟩ = _
    rw [ih hjs, List.reverse_cons, List.append_assoc, List.singleton_append]

theorem foldlM_entryTokens {es : List (String × Json)} (h : ∀ e ∈ es, Gives depth d e.2)
    (hroom : ∀ m ∈ depth, stack.length + 1 + d ≤ m) {entries : Dict String Json}
    (hkeys : (entries.keys ++ es.map (·.1)).Nodup) :
    (entryTokens es).foldlM (step depth) ⟨.map entries :: stack, .commaOrClose, r⟩ =
      give stack (.map (entries.entries ++ es)) := by
  -- As no key comes twice, each entry goes behind those of the open frame.
  induction es generalizing entries r with
  | nil =>
    rw [entryTokens, List.append_nil]
    exact foldlM_one _ _ _
  | cons x es ih =>
    obtain ⟨k, j⟩ := x
    obtain ⟨hj, hes⟩ := List.forall_mem_cons.1 h
    have hnew : k ∉ entries.keys := fun hk =>
      (List.nodup_append.1 hkeys).2.2 k hk k List.mem_cons_self rfl
    have hput := Dict.entries_put_of_new hnew j
    have hkeys' : ((entries.put k j).keys ++ es.map (·.1)).Nodup := by
      rw [Dict.keys, hput, List.map_append, List.append_assoc]
      exact hkeys
    rw [entryTokens]
    change (tokens j ++ entryTokens es).foldlM (step depth) ⟨.entry entries k :: stack, .value, r⟩ = _
    rw [foldlM_tokens_append hj (.inl rfl) (by simpa using hroom)]
    change (entryTokens es).foldlM (step depth)
      ⟨.map (entries.put k j) :: stack, .commaOrClose, .null⟩ = _
    rw [ih hes hkeys', hput, List.append_assoc, List.singleton_append]

theorem gives_empty_list : Gives depth d (.list []) := by
  intro stack e r he hroom
  rw [tokens, List.foldlM_cons,
    step_begin he (fun m hm => Nat.le_of_add_right_le (hroom m hm)) (by simp)]
  exact foldlM_one _ _ _

theorem gives_empty_map : Gives depth d (.map []) := by
  intro stack e r he hroom
  rw [tokens, List.foldlM_cons,
    step_begin he (fun m hm => Nat.le_of_add_right_le (hroom m hm)) (by simp)]
  exact foldlM_one _ _ _

theorem gives_list {js : List Json} (h : ∀ j ∈ js, Gives depth d j) :
    Gives depth (d + 1) (.list js) := by
  cases js with
  | nil => exact gives_empty_list
  | cons j js =>
    intro stack e r he hroom
    obtain ⟨hj, hjs⟩ := List.forall_mem_cons.1 h
    have hroom' : ∀ m ∈ depth, stack.length + 1 + d ≤ m := fun m hm => by
      have := hroom m hm
      omega
    rw [tokens, List.foldlM_cons,
      step_begin he (fun m hm => Nat.le_of_add_right_le (hroom m hm)) (by simp)]
    change (tokens j ++ itemTokens js).foldlM (step depth) ⟨.list [] :: stack, .valueOrClose, r⟩ = _
    rw [foldlM_tokens_append hj (.inr rfl) (by simpa using hroom')]
    exact foldlM_itemTokens hjs hroom' [j]

theorem gives_map {es : List (String × Json)} (hkeys : (es.map (·.1)).Nodup)
    (h : ∀ e ∈ es, Gives depth d e.2) : Gives depth (d + 1) (.map es) := by
  cases es with
  | nil => exact gives_empty_map
  | cons x es =>
    intro stack e r he hroom
    obtain ⟨k, j⟩ := x
    obtain ⟨hj, hes⟩ := List.forall_mem_cons.1 h
    have hroom' : ∀ m ∈ depth, stack.length + 1 + d ≤ m := fun m hm => by
      have := hroom m hm
      omega
    rw [tokens, List.foldlM_cons,
      step_begin he (fun m hm => Nat.le_of_add_right_le (hroom m hm)) (by simp)]
    change (Token.text k :: .colon :: (tokens j ++ entryTokens es)).foldlM (step depth)
      ⟨.map .empty :: stack, .keyOrClose, r⟩ = _
    rw [List.foldlM_cons, step_key (fun m hm => Nat.le_of_add_right_le (hroom' m hm))]
    change (tokens j ++ entryTokens es).foldlM (step depth) ⟨.entry .empty k :: stack, .value, r⟩ = _
    rw [foldlM_tokens_append hj (.inl rfl) (by simpa using hroom')]
    have hkeys' : ((Dict.empty.put k j).keys ++ es.map (·.1)).Nodup := hkeys
    exact foldlM_entryTokens hes hroom' hkeys'

theorem gives_of_readable {j : Json} (h : j.Readable d) : Gives depth d j := by
  induction h with
  | null => exact gives_atom rfl (by simp) fun _ => rfl
  | bool b => exact gives_atom rfl (by simp) fun _ => rfl
  | int h => exact gives_atom rfl (by simp) fun _ => rfl
  | float s m => exact gives_atom rfl (by simp) fun _ => rfl
  | str s => exact gives_atom rfl (by simp) fun _ => rfl
  | emptyList => exact gives_empty_list
  | emptyMap => exact gives_empty_map
  | list h ih => exact gives_list ih
  | map hkeys h ih => exact gives_map hkeys ih

end Progress

theorem read_chars {st : Style} (hst : st.Plain) {d : Nat} {j : Json} (h : j.Readable d)
    {depth : Option Nat} (hdepth : ∀ m ∈ depth, d ≤ m) : read depth (st.chars j) = .ok j := by
  have htokens := Style.ofText_chars hst h [] Token.endsWord_nil
  have hgives : Progress.Gives depth d j := Progress.gives_of_readable h
  have hgive := hgives [] .value .null (.inl rfl) (by simpa using hdepth)
  rw [List.append_nil, show Token.ofText [] = [] from rfl, List.append_nil] at htokens
  rw [read, ofTokens, htokens, Progress.start, hgive]
  rfl

theorem Progress.step_bad (depth : Option Nat) (p : Progress) (f : ReadFault) :
    ∃ f', Progress.step depth p (.bad f) = .error f' := by
  obtain ⟨stack, e, r⟩ := p
  have hwithin (g : ReadFault) : ∃ f', within depth ⟨stack, e, r⟩ (.error g) = .error f' := by
    rw [within]
    split
    · exact ⟨_, rfl⟩
    · exact ⟨_, rfl⟩
  cases e with
  | value => exact hwithin f
  | valueOrClose => exact hwithin f
  | keyOrClose => exact hwithin .malformed
  | _ => exact ⟨_, rfl⟩

theorem ofTokens_of_step {depth : Option Nat} {t : Token} {before : List Token}
    (behind : List Token) (h : ∀ p, before.foldlM (Progress.step depth) .start = .ok p →
      ∃ f, Progress.step depth p t = .error f) :
    ∃ f, ofTokens depth (before ++ t :: behind) = .error f := by
  suffices hfold : ∃ f, (before ++ t :: behind).foldlM (Progress.step depth) .start = .error f by
    obtain ⟨f, hf⟩ := hfold
    exact ⟨f, by rw [ofTokens, hf]⟩
  rw [List.foldlM_append]
  cases hp : before.foldlM (Progress.step depth) .start with
  | error f => exact ⟨f, rfl⟩
  | ok p =>
    obtain ⟨f, hf⟩ := h p hp
    refine ⟨f, ?_⟩
    change (t :: behind).foldlM (Progress.step depth) p = _
    rw [List.foldlM_cons, hf]
    rfl

theorem bad_not_mem_of_ofTokens {depth : Option Nat} {ts : List Token} {j : Json}
    (h : ofTokens depth ts = .ok j) (f : ReadFault) : .bad f ∉ ts := by
  intro hmem
  obtain ⟨before, behind, rfl⟩ := List.append_of_mem hmem
  obtain ⟨f', hf'⟩ : ∃ f', ofTokens depth (before ++ .bad f :: behind) = .error f' :=
    ofTokens_of_step behind fun p _ => Progress.step_bad depth p f
  rw [hf'] at h
  cases h

/-- Behind a complete document no token may stand. -/
theorem ofTokens_append {depth : Option Nat} {ts : List Token} {j : Json}
    (h : ofTokens depth ts = .ok j) (t : Token) (more : List Token) :
    ∃ f, ofTokens depth (ts ++ t :: more) = .error f := by
  refine ofTokens_of_step more fun p hp => ?_
  rw [ofTokens, hp] at h
  obtain ⟨stack, e, r⟩ := p
  cases e with
  | nothing => exact ⟨_, rfl⟩
  | _ => cases h

/-- Behind a complete document nothing else may stand but blanks. -/
theorem read_append {depth : Option Nat} {cs more : List Char} {j : Json}
    (h : read depth cs = .ok j) (hmore : Token.EndsWord more) (hne : Token.ofText more ≠ []) :
    ∃ f, read depth (cs ++ more) = .error f := by
  obtain ⟨t, ts, hts⟩ := List.exists_cons_of_ne_nil hne
  rw [read, Token.ofText_append (bad_not_mem_of_ofTokens h) hmore, hts]
  exact ofTokens_append h t ts

end Runbook.Json
