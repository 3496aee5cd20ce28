import RuleReview.Check
import RuleReview.Decimal.Binary64
import RuleReview.Json.Basic

/-! # Values for declared fields

A field is declared as a text, a list, one of some words, or a number. Which values are taken for which field is the
matter of whoever declares them: a coercion gives the value of a field, or what is wrong with what was given for it.
-/
namespace RuleReview

structure Coercion where
  text : Json → Check Glyphs
  list : Json → Check (List Json)
  choice : List Text → Json → Check Text
  integer : Json → Check Int
  number : Json → Check Binary64

namespace Coercion

def naturalFrom (c : Coercion) (least : Nat) (v : Json) : Check Nat :=
  (c.integer v).andThen fun n => if (least : Int) ≤ n then .pass n.toNat else .wrong (.atLeast least)

def positive (c : Coercion) (v : Json) : Check Binary64 :=
  (c.number v).andThen fun x => if x.isPositive then .pass x else .wrong (.above 0)

def texts (c : Coercion) (v : Json) : Check (List Glyphs) := (c.list v).andThen (Check.items c.text)

end Coercion

end RuleReview
