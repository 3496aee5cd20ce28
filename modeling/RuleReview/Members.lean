import RuleReview.Text.Basic

/-! # Named members

A list of names with values, in the order in which the names first appear.
-/
namespace RuleReview.Members

/-- Sets a member, in its old place if the name is there already. -/
def put [BEq κ] (members : List (κ × α)) (name : κ) (v : α) : List (κ × α) :=
  if members.any (·.1 == name) then members.map fun m => if m.1 == name then (name, v) else m
  else members ++ [(name, v)]

end RuleReview.Members
