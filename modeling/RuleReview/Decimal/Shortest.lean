import RuleReview.Decimal.Binary64

/-! # The shortest decimal that reads back

Of the decimals with fewest digits inside the interval of reals that round to a number, the one nearest to
it is written; a tie goes to the even digit.
-/
namespace RuleReview

structure Decimal where
  digits : Nat
  exponent : Int

namespace Decimal

def leading (num den : Nat) : Int :=
  if den ≤ num then ((Nat.toDigits 10 (num / den)).length : Int) - 1
  else -((Nat.toDigits 10 ((den + num - 1) / num - 1)).length : Int)

/-- The interval of reals that round to `m * 2 ^ q`, in quarters of `2 ^ q`, and whether its ends
belong to it. -/
structure Interval where
  lo : Nat
  hi : Nat
  closed : Bool

def roundingInterval (m : Nat) (q : Int) : Interval :=
  ⟨if m = Nat.pow 2 52 ∧ Binary64.leastExponent < q then 4 * m - 1 else 4 * m - 2, 4 * m + 2, m % 2 = 0⟩

/-- Whether `c / d`, a ratio in quarters, lies inside. -/
def Interval.holds (i : Interval) (c d : Nat) : Bool :=
  if i.closed then i.lo * d ≤ c && c ≤ i.hi * d else i.lo * d < c && c < i.hi * d

/-- The nearest decimal with `n` digits that reads back as `m * 2 ^ q`. -/
def withDigits? (m : Nat) (q : Int) (n : Nat) : Option Decimal :=
  let (num, den) := Binary64.unscale 2 (-q) m 1
  let e := leading num den - n + 1
  let (vn, vd) := Binary64.unscale 10 e num den
  let floor := vn / vd
  let inside (k : Nat) : Bool :=
    let (a, b) := Binary64.unscale 10 (-e) (4 * k) 1
    let (c, d) := Binary64.unscale 2 q a b
    (roundingInterval m q).holds c d
  let below := 2 * (vn % vd) < vd || (2 * (vn % vd) = vd && floor % 2 = 0)
  match inside floor, inside (floor + 1) with
  | true, true => some ⟨if below then floor else floor + 1, e⟩
  | true, false => some ⟨floor, e⟩
  | false, true => some ⟨floor + 1, e⟩
  | false, false => none

def shortest (m : Nat) (q : Int) : Decimal :=
  ((List.range 17).findSome? fun n => withDigits? m q (n + 1)).getD ⟨m, 0⟩

/-- Digits stand around a point for leading exponents from -4 to 15; outside, one digit stands before the
point and the exponent has a sign and at least two digits. -/
def toText (d : Decimal) : Text :=
  let ds := Text.dropTrailing (· == '0') (Text.ofNat d.digits)
  let x : Int := (Text.ofNat d.digits).length + d.exponent - 1
  if x < -4 ∨ 16 ≤ x then
    let mantissa := match ds with
      | c :: c' :: r => c :: '.' :: c' :: r
      | short => short
    let size := Text.ofNat x.natAbs
    mantissa ++ 'e' :: (if x < 0 then '-' else '+') :: (if size.length < 2 then '0' :: size else size)
  else if x < 0 then
    '0' :: '.' :: List.replicate (-x - 1).toNat '0' ++ ds
  else
    let whole := (x + 1).toNat
    let fraction := ds.drop whole
    ds.take whole ++ List.replicate (whole - ds.length) '0' ++ '.' ::
      (if fraction.isEmpty then ['0'] else fraction)

end Decimal

def Binary64.toText : Binary64 → Text
  | .nan => "nan"
  | .infinite neg => if neg then "-inf" else "inf"
  | .finite neg m q =>
    (if neg then ['-'] else []) ++ if m = 0 then ("0.0" : Text) else (Decimal.shortest m q).toText

end RuleReview
