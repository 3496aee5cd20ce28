import RuleReview.Issue
import RuleReview.Text.Basic

/-! # Checking data field by field

A check gives a value or everything that is wrong. Checks of different fields are combined without stopping
at the first fault, and the faults stand in the order of the fields; a check that builds on the value of
another one runs only when that one passes.
-/
namespace RuleReview

inductive Check (α : Type) where
  | pass (a : α)
  | fail (issues : List Issue)

namespace Check

def issues : Check α → List Issue
  | .pass _ => []
  | .fail is => is

def wrong (k : Issue.Kind) : Check α := .fail [⟨[], k⟩]

def map (f : α → β) : Check α → Check β
  | .pass a => .pass (f a)
  | .fail is => .fail is

def both : Check (α → β) → Check α → Check β
  | .pass f, .pass a => .pass (f a)
  | f, a => .fail (f.issues ++ a.issues)

instance : Functor Check := ⟨map, fun a x => x.map fun _ => a⟩

instance : Applicative Check where
  pure := .pass
  seq f a := both f (a ())
  map := map

def andThen (x : Check α) (f : α → Check β) : Check β :=
  match x with
  | .pass a => f a
  | .fail is => .fail is

def within (s : Step) : Check α → Check α
  | .pass a => .pass a
  | .fail is => .fail (is.map fun i => ⟨s :: i.place, i.kind⟩)

def field (name : Text) (members : List (Text × β)) (absent : Check α) (check : β → Check α) : Check α :=
  ((members.lookup name).elim absent check).within (.field name)

def itemsFrom (check : β → Check α) : Nat → List β → Check (List α)
  | _, [] => .pass []
  | i, b :: bs => List.cons <$> (check b).within (.item i) <*> itemsFrom check (i + 1) bs

def items (check : β → Check α) (l : List β) : Check (List α) := itemsFrom check 0 l

/-- What a value has to be, with the fault of not being it. -/
def asked (k : Issue.Kind) : Option α → Check α
  | some a => .pass a
  | none => wrong k

def toExcept : Check α → Except (List Issue) α
  | .pass a => .ok a
  | .fail is => .error is

end Check

end RuleReview
