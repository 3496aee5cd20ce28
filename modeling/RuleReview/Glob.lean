import RuleReview.Expression.Match
import RuleReview.Expression.Reader
import RuleReview.Failure
import RuleReview.Glob.Spelled

/-! # Globs

A path matches a pattern when the tokens of the pattern can use it up. A pattern without tokens is read as the
expression it spells, and refused where that is none.
-/
namespace RuleReview.Glob

inductive Matcher where
  | tokens (ts : List Token)
  | expression (e : Expression)

def Matcher.accepts : Matcher → Text → Bool
  | .tokens ts, path => Glob.accepts ts path
  | .expression e, path => e.accepts path

/-- What a pattern stands for; one leading `./` means nothing. -/
def compile (pattern : Text) : Except Failure Matcher :=
  let ps := parts none ((pattern.after? "./").getD pattern)
  match tokens? ps with
  | some ts => .ok (.tokens ts)
  | none => ((Expression.read (expression ps)).map .expression).mapError .pattern

def matchesPath (path pattern : Text) : Except Failure Bool := (compile pattern).map (·.accepts path)

def matchesAny (path : Text) : List Text → Except Failure Bool
  | [] => .ok false
  | p :: ps => do if ← matchesPath path p then return true else matchesAny path ps

def select (paths patterns : List Text) : Except Failure (List Text) := paths.filterM (matchesAny · patterns)

end RuleReview.Glob
