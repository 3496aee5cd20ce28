import RuleReview.Text.Blank

/-! # Environment variables -/
namespace RuleReview

abbrev Environment := List (Text × Text)

namespace Environment

def raw? (env : Environment) (name : Text) : Option Text := (env.lookup name).filter (!·.isEmpty)

/-- The trimmed value; a blank one counts as unset. -/
def get? (env : Environment) (name : Text) : Option Text :=
  ((env.lookup name).map Text.trim).filter (!·.isEmpty)

end Environment

end RuleReview
