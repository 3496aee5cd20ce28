import RuleReview.Glob.Basic

/-! # Globs as expressions

Every part of a pattern can be spelled out in an expression, and a pattern means what its expression means. So a
class goes on after a bracket that does not close it, and what was within the brackets of a later part may come
to stand by itself.
-/
namespace RuleReview.Glob

/-- The characters that a backslash stands before when they mean themselves. -/
def special : Text := "()[]\x7b\x7d?*+-|^$\\.&~# \t\n\r\x0b\x0c"

def spellChar (c : Char) : Text := if special.contains c then ['\\', c] else [c]

def spellBody (body : Text) : Text := body.flatMap fun c => if c = '\\' then ['\\', '\\'] else [c]

def Part.spelled : Part → Text
  | .token .directories => "(?:.*/)?"
  | .token .anything => ".*"
  | .token .segment => "[^/]*"
  | .token .one => "[^/]"
  | .token (.lit c) => spellChar c
  | .token _ => []
  | .brackets ('!' :: body) => '[' :: '^' :: spellBody body ++ [']']
  | .brackets body => '[' :: spellBody body ++ [']']

def expression (ps : List Part) : Text := '^' :: ps.flatMap Part.spelled ++ ['$']

end RuleReview.Glob
