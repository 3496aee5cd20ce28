import Mathlib.Data.List.Forall2
import RuleReview.Check

/-! # What passes a check

A check that is put together passes when all of its parts do, and its value is made of their values.
-/
namespace RuleReview.Check
variable {α β γ : Type} {x : Check α} {a : α}

theorem wrong_ne_pass (k : Issue.Kind) (a : α) : (wrong k : Check α) ≠ .pass a := nofun

theorem toExcept_eq_ok : x.toExcept = .ok a ↔ x = .pass a := by cases x <;> simp [toExcept]

theorem map_eq_pass {f : α → β} {b : β} : f <$> x = .pass b ↔ ∃ a, x = .pass a ∧ f a = b := by
  cases x <;> simp [Functor.map, map]

theorem seq_eq_pass {f : Check (α → β)} {b : β} : f <*> x = .pass b ↔ ∃ g a, f = .pass g ∧ x = .pass a ∧ g a = b := by
  cases f <;> cases x <;> simp [Seq.seq, both]

theorem andThen_eq_pass {f : α → Check β} {b : β} : x.andThen f = .pass b ↔ ∃ a, x = .pass a ∧ f a = .pass b := by
  cases x <;> simp [andThen]

theorem within_eq_pass {s : Step} : x.within s = .pass a ↔ x = .pass a := by cases x <;> simp [within]

theorem field_eq_pass {name : Text} {members : List (Text × β)} {absent : Check α} {check : β → Check α} :
    field name members absent check = .pass a ↔
      (∃ b, members.lookup name = some b ∧ check b = .pass a) ∨ members.lookup name = none ∧ absent = .pass a := by
  rw [field, within_eq_pass]
  cases members.lookup name <;> simp

theorem itemsFrom_eq_pass {check : β → Check α} {i : Nat} {bs : List β} {as : List α} :
    itemsFrom check i bs = .pass as ↔ List.Forall₂ (fun b a => check b = .pass a) bs as := by
  induction bs generalizing i as with
  | nil => cases as <;> simp [itemsFrom]
  | cons b bs ih =>
    simp only [itemsFrom, seq_eq_pass, map_eq_pass, within_eq_pass, ih, List.forall₂_cons_left_iff]
    constructor
    · rintro ⟨_, rest, ⟨a, ha, rfl⟩, hrest, rfl⟩
      exact ⟨a, rest, ha, hrest, rfl⟩
    · rintro ⟨a, rest, ha, hrest, rfl⟩
      exact ⟨_, rest, ⟨a, ha, rfl⟩, hrest, rfl⟩

theorem items_eq_pass {check : β → Check α} {bs : List β} {as : List α} :
    items check bs = .pass as ↔ List.Forall₂ (fun b a => check b = .pass a) bs as := itemsFrom_eq_pass

end RuleReview.Check
