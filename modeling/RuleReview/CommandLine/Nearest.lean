import RuleReview.Text.Basic

/-! # Names close to a name

Two texts are as close as the share of their characters that match: their longest common piece, and likewise
what stands before it and what stands after it.
-/
namespace RuleReview.CommandLine

def commonStart : Text → Text → Nat
  | a :: as, b :: bs => if a = b then commonStart as bs + 1 else 0
  | _, _ => 0

structure Common where
  left : Nat
  right : Nat
  length : Nat

/-- The longest common piece, the first one in `a` and then in `b`. -/
def longestCommon (a b : Text) : Common :=
  (List.range a.length).foldl (fun best i =>
    (List.range b.length).foldl (fun best j =>
      let n := commonStart (a.drop i) (b.drop j)
      if best.length < n then ⟨i, j, n⟩ else best) best) ⟨0, 0, 0⟩

/-- How many characters of two texts match; the fuel bounds the number of pieces on a way. -/
def matching : Nat → Text → Text → Nat
  | 0, _, _ => 0
  | fuel + 1, a, b =>
    let c := longestCommon a b
    if c.length = 0 then 0
    else matching fuel (a.take c.left) (b.take c.right) + c.length +
      matching fuel (a.drop (c.left + c.length)) (b.drop (c.right + c.length))

def maxSuggestions : Nat := 3

/-- The names of which at least six tenths match, sorted; of many, the closest. -/
def closest (names : List Text) (name : Text) : List Text :=
  let scored := names.map fun n => (matching (n.length + 1) n name, n.length + name.length, n)
  let close := scored.filter fun (m, total, _) => 6 * total ≤ 20 * m
  let sorted := close.mergeSort fun (m, t, n) (m', t', n') =>
    m' * t < m * t' || (m' * t = m * t' && n'.le n)
  ((sorted.take maxSuggestions).map fun (_, _, n) => n).mergeSort Text.le

end RuleReview.CommandLine
