import RuleReview.Failure
import RuleReview.Text.Word

/-! # Git refs

A ref that reaches a git command line must not be read as an option or a range there.
-/
namespace RuleReview.Ref

def isRefChar (c : Char) : Bool := Text.isWord c || "./@^~+-".toList.contains c

def chop (s : Text) : Text := if s.getLast? = some '\n' then s.dropLast else s

def problem? (ref : Text) : Option RefProblem :=
  if ref.isEmpty then some .empty
  else if ref.startsWith "-" then some .optionLike
  else if Text.holds ".." ref then some .range
  else if (chop ref).isEmpty || !(chop ref).all isRefChar then some .badCharacters
  else if ref.endsWith "/" || ref.endsWith ".lock" || Text.holds "//" ref then some .malformed
  else none

def validate (ref : Text) : Except Failure Text :=
  match problem? ref with
  | some p => .error (.ref ref p)
  | none => .ok ref

def isSha (s : Text) : Bool :=
  let s := chop s
  4 ≤ s.length && s.length ≤ 64 && s.all fun c => (Text.hexValue? c).isSome

end RuleReview.Ref
