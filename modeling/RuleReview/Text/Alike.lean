import RuleReview.Text.Case

/-! # Letters that are alike

Letters are alike when they have the same small letter, or small letters that share a capital.
-/
namespace RuleReview.Text

def twinTable : List (List Nat) :=
  [[0x69, 0x131], [0x73, 0x17f], [0xb5, 0x3bc], [0x345, 0x3b9, 0x1fbe], [0x390, 0x1fd3], [0x3b0, 0x1fe3],
   [0x3b2, 0x3d0], [0x3b5, 0x3f5], [0x3b8, 0x3d1], [0x3ba, 0x3f0], [0x3c0, 0x3d6], [0x3c1, 0x3f1],
   [0x3c2, 0x3c3], [0x3c6, 0x3d5], [0x432, 0x1c80], [0x434, 0x1c81], [0x43e, 0x1c82], [0x441, 0x1c83],
   [0x442, 0x1c84, 0x1c85], [0x44a, 0x1c86], [0x463, 0x1c87], [0x1c88, 0xa64b], [0x1e61, 0x1e9b],
   [0xfb05, 0xfb06]]

def foldChar (c : Char) : Char := if c = '\u0130' then 'i' else smallChar c

def capitalsOf (c : Char) : Text :=
  let n := c.toNat
  let inRuns := capitalRuns.filterMap fun (lo, hi, step, first) =>
    if first ≤ n && n - first ≤ hi - lo && (n - first) % step = 0 then some (lo + (n - first)) else none
  let alone := loneCapitals.filterMap fun (capital, small) => if small = n then some capital else none
  (if c = 'i' then ['\u0130'] else []) ++ (inRuns ++ alone).map Char.ofNat

def alike (c : Char) : Text :=
  let small := foldChar c
  let twins := (twinTable.find? (·.contains small.toNat)).elim [small] (·.map Char.ofNat)
  twins ++ twins.flatMap capitalsOf

def plainlyAlike (c : Char) : Text := [c.toLower, c.toUpper]

end RuleReview.Text
