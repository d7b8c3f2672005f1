import Runbook.Proofs.Params
import Runbook.Run

namespace Runbook

namespace Dict

variable {κ α : Type} [BEq κ]

/-- The entries of three dictionaries. Under each key stands the value of the first that has it, and
the keys are those of the second, the new ones of the first and the new ones of the third. -/
structure Ranked (first second third d : Dict κ α) : Prop where
  keys : d.keys = second.keys ++ (first.keys.filter fun k => !second.contains k) ++
    third.keys.filter fun k => !(second.contains k || first.contains k)
  get? : ∀ k, d.get? k = ((first.get? k).or (second.get? k)).or (third.get? k)

theorem ranked_of_sound {first second third : Dict κ α} (h₁ : first.Sound) (h₂ : second.Sound)
    (h₃ : third.Sound) : Ranked first second third ((second.combine first).fill third) where
  keys := by
    rw [keys_fill, keys_combine]
    simp only [contains_combine h₂ h₁]
  get? k := by rw [get?_fill (h₂.combine h₁) h₃, get?_combine h₂ h₁]

end Dict

namespace Run

theorem params_ofTest (t : Test) (s : Suite) (parent : Option Test) :
    (ofTest t s parent).params =
      (parent.elim t.params fun p => t.params.copyFrom p.params).addFrom s.params := by
  cases parent <;> rfl

/-- The step that refers to the suite comes before the step itself, and the suite comes last. In each
of the four mappings this says which value stands under a key, and the keys are in the order in which
the step, what refers to it and the suite bring them. The body is that of the step with the other one
over it, if there is another, and then filled from the suite. -/
theorem ofTest_precedence (t : Test) (s : Suite) (parent : Option Test) (ht : t.params.body.Keyed)
    (hs : s.params.body.Keyed) (hparent : ∀ p ∈ parent, p.params.body.Keyed) :
    (∀ slot ∈ Params.slots, Dict.Ranked (parent.elim .empty fun p => slot p.params)
      (slot t.params) (slot s.params) (slot (ofTest t s parent).params)) ∧
    ∃ b : Body, (parent.elim (b = t.params.body) fun p => Body.Over p.params.body t.params.body b) ∧
      Body.Filled s.params.body b (ofTest t s parent).params.body := by
  rw [params_ofTest]
  cases parent with
  | none =>
    refine ⟨fun slot hslot => ?_, t.params.body, rfl, Body.filled_addFrom hs ht⟩
    rw [Params.slot_addFrom hslot]
    exact Dict.ranked_of_sound (.of_lawful .empty) (.of_lawful _) (.of_lawful _)
  | some p =>
    have hp : p.params.body.Keyed := hparent p rfl
    refine ⟨fun slot hslot => ?_, _, Body.over_copyFrom hp ht,
      Body.filled_addFrom hs (hp.copyFrom ht)⟩
    rw [Params.slot_addFrom hslot, Option.elim_some, Option.elim_some, Params.slot_copyFrom hslot]
    exact Dict.ranked_of_sound (.of_lawful _) (.of_lawful _) (.of_lawful _)

def caller : Test :=
  { Test.empty with
    params := { Params.empty with
      query := .ofList [("size", .int 2), ("page", .int 3)]
      body := .mapping (.ofList [(.bool true, .str "called"), (.str "name", .str "fido")]) } }

def listing : Test :=
  { Test.empty with
    params := { Params.empty with
      query := .ofList [("page", .int 1)]
      body := .mapping (.ofList [(.str "kind", .str "cat"), (.int 1, .str "own")]) } }

def pets : Suite where
  name := "pets"
  tests := [listing]
  params := { Params.empty with
    query := .ofList [("lang", .str "en"), ("size", .int 9)]
    body := .mapping (.ofList [(.str "name", .str "rex"), (.str "tag", .null)]) }
  strict := false
  auth := .none
  comment := ""
  schema := none

/-- The flag `true` is the key 1, which stays where it is and as it was first written. -/
theorem ofTest_precedence_merged :
    (caller.params.body.Keyed ∧ listing.params.body.Keyed ∧ pets.params.body.Keyed) ∧
    ((∀ slot ∈ Params.slots, Dict.Ranked (slot caller.params) (slot listing.params)
        (slot pets.params) (slot (ofTest listing pets (some caller)).params)) ∧
      ∃ b : Body, Body.Over caller.params.body listing.params.body b ∧
        Body.Filled pets.params.body b (ofTest listing pets (some caller)).params.body) ∧
    (ofTest listing pets (some caller)).params.body.value = .map [(.str "kind", .str "cat"),
      (.int 1, .str "called"), (.str "name", .str "fido"), (.str "tag", .null)] := by
  have hcaller : caller.params.body.Keyed := by decide +kernel
  have hlisting : listing.params.body.Keyed := by decide +kernel
  have hpets : pets.params.body.Keyed := by decide +kernel
  refine ⟨⟨hcaller, hlisting, hpets⟩,
    ofTest_precedence listing pets (some caller) hlisting hpets ?_, by with_unfolding_all rfl⟩
  intro p hp
  cases hp
  exact hcaller

end Run

end Runbook
