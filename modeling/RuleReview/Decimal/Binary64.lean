import RuleReview.Text.Digit

/-! # Binary64 numbers in exact arithmetic

A finite number is a significand below `2 ^ 53` times a power of two; a ratio of naturals is rounded to the
nearest of them, ties going to the even significand. Nothing here uses floating point of the machine.
-/
namespace RuleReview

inductive Binary64 where
  | nan
  | infinite (negative : Bool)
  | finite (negative : Bool) (m : Nat) (q : Int)
  deriving DecidableEq, Repr, Inhabited

namespace Binary64

/-- The least exponent: below it the significand loses digits. -/
def leastExponent : Int := -1074

def greatestExponent : Int := 971

def zero : Binary64 := .finite false 0 leastExponent

/-- The quotient rounded to the nearest natural, a half to the even one. -/
def nearest (num den : Nat) : Nat :=
  let k := num / den
  let r := num % den
  if 2 * r < den then k
  else if den < 2 * r then k + 1
  else if k % 2 = 0 then k else k + 1

/-- The ratio `num / (den * base ^ e)` with a power that may be negative. -/
def unscale (base : Nat) (e : Int) (num den : Nat) : Nat × Nat :=
  if 0 ≤ e then (num, den * Nat.pow base e.toNat) else (num * Nat.pow base (-e).toNat, den)

def ofRatio (negative : Bool) (num den : Nat) : Binary64 :=
  if num = 0 then .finite negative 0 leastExponent
  else
    let guess := max ((num.log2 : Int) - den.log2 - 53) leastExponent
    let (n, d) := unscale 2 guess num den
    let q := if Nat.pow 2 53 ≤ n / d then guess + 1 else guess
    let (n, d) := unscale 2 q num den
    let m := nearest n d
    let (m, q) := if m = Nat.pow 2 53 then (Nat.pow 2 52, q + 1) else (m, q)
    if greatestExponent < q then .infinite negative else .finite negative m q

/-- The number written as `digits * 10 ^ exponent`. Exponents far out of range are settled without
computing the power. -/
def ofDecimal (negative : Bool) (digits : Nat) (exponent : Int) : Binary64 :=
  let size : Int := (Nat.toDigits 10 digits).length
  if digits = 0 then .finite negative 0 leastExponent
  else if 400 < size + exponent then .infinite negative
  else if size + exponent < -400 then .finite negative 0 leastExponent
  else
    let (n, d) := unscale 10 (-exponent) digits 1
    ofRatio negative n d

def ofInt (n : Int) : Binary64 := ofRatio (n < 0) n.natAbs 1

def ofScaled (negative : Bool) (m : Nat) (q : Int) : Binary64 :=
  let (num, den) := unscale 2 (-q) m 1
  ofRatio negative num den

/-- The significands of two numbers over their common exponent, with signs. -/
def common (neg₁ : Bool) (m₁ : Nat) (q₁ : Int) (neg₂ : Bool) (m₂ : Nat) (q₂ : Int) : Int × Int :=
  let q := min q₁ q₂
  let one (neg : Bool) (m : Nat) (e : Int) : Int :=
    let v : Int := (m * Nat.pow 2 (e - q).toNat : Nat)
    if neg then -v else v
  (one neg₁ m₁ q₁, one neg₂ m₂ q₂)

def lt : Binary64 → Binary64 → Bool
  | .nan, _ | _, .nan => false
  | .infinite a, .infinite b => a && !b
  | .infinite a, .finite .. => a
  | .finite .., .infinite b => !b
  | .finite s m q, .finite t n r => let (x, y) := common s m q t n r; x < y

def eq : Binary64 → Binary64 → Bool
  | .nan, _ | _, .nan => false
  | .infinite a, .infinite b => a == b
  | .finite s m q, .finite t n r => let (x, y) := common s m q t n r; x == y
  | _, _ => false

def le (x y : Binary64) : Bool := lt x y || eq x y

/-- The sum, rounded. It is negative zero only when both numbers are. -/
def add : Binary64 → Binary64 → Binary64
  | .nan, _ | _, .nan => .nan
  | .infinite a, .infinite b => if a = b then .infinite a else .nan
  | .infinite a, .finite .. | .finite .., .infinite a => .infinite a
  | .finite s m q, .finite t n r =>
    let (x, y) := common s m q t n r
    ofScaled (if x + y = 0 then s && t else x + y < 0) (x + y).natAbs (min q r)

def mul : Binary64 → Binary64 → Binary64
  | .nan, _ | _, .nan => .nan
  | .infinite a, .infinite b => .infinite (a != b)
  | .infinite a, .finite s m _ | .finite s m _, .infinite a => if m = 0 then .nan else .infinite (a != s)
  | .finite s m q, .finite t n r => ofScaled (s != t) (m * n) (q + r)

def neg : Binary64 → Binary64
  | .nan => .nan
  | .infinite s => .infinite !s
  | .finite s m q => .finite (!s) m q

def isPositive (x : Binary64) : Bool := lt zero x

def toInt? : Binary64 → Option Int
  | .finite neg m q =>
    let sign (n : Nat) : Int := if neg then -(n : Int) else n
    if 0 ≤ q then some (sign (m * Nat.pow 2 q.toNat))
    else
      let unit := Nat.pow 2 (-q).toNat
      if m % unit = 0 then some (sign (m / unit)) else none
  | _ => none

end Binary64

end RuleReview
