import RuleReview.Decimal.Shortest

/-! # Spans of seconds

A span is shown as the number that it was given by, with a fraction or without.
-/
namespace RuleReview

inductive Seconds where
  | whole (n : Int)
  | exact (x : Binary64)
  deriving DecidableEq, Repr

namespace Seconds

def toText : Seconds → Text
  | .whole n => Text.ofInt n
  | .exact x => x.toText

def isOver : Seconds → Bool
  | .whole n => n ≤ 0
  | .exact x => x.le Binary64.zero

end Seconds

end RuleReview
