import RuleReview.Decimal.Shortest
import RuleReview.Text.Utf8
import RuleReview.Yaml.Tag

/-! # Scalars as values

The text of a scalar with a tag gives an atom, or the fault of being out of the range of its kind. Atoms are
also what the keys of a mapping are, so there is a notion of the same atom: numbers of different kinds are the
same when their values are.
-/
namespace RuleReview.Yaml

inductive Atom where
  | null
  | bool (b : Bool)
  | int (n : Int)
  | float (x : Binary64)
  /-- What is not a number, with the node that it comes from; the word for it comes from nowhere. -/
  | notNumber (origin : Option Nat)
  | moment (m : Moment)
  | bytes (bs : List UInt8)
  | str (s : Glyphs)
  deriving DecidableEq, Inhabited

namespace Atom

def integer? : Atom → Option Int
  | .bool b => some (if b then 1 else 0)
  | .int n => some n
  | .float x => x.toInt?
  | _ => none

def same : Atom → Atom → Bool
  | .moment a, .moment b => a.same b
  | .float x, .float y => x.eq y
  | a, b => a == b || (a.integer?.isSome && a.integer? == b.integer?)

def isBlank : Atom → Bool
  | .null => true
  | .bytes bs => bs.isEmpty
  | .str s => s.isEmpty
  | a => a.integer? == some 0

end Atom

namespace Scalar

def withoutUnderscores (s : Glyphs) : Glyphs := s.filter (· != .char '_')

def isNegative (s : Glyphs) : Bool := s.head? = some (.char '-')

def unsigned : Glyphs → Glyphs
  | .char '-' :: s => s
  | .char '+' :: s => s
  | s => s

def integerIn (base : Nat) (s : Glyphs) : Except Problem Int := (Numeral.integer base s).mapError .numeral

def numberIn (s : Glyphs) : Except Problem Binary64 := (Numeral.number s).mapError .numeral

def parts (s : Glyphs) : List Glyphs := s.splitOn (.char ':')

def ofSixtieths (digits : List Int) : Int := digits.foldl (fun n d => 60 * n + d) 0

def integer (given : Glyphs) : Except Problem Int := do
  let s := withoutUnderscores given
  let r := unsigned s
  let n ← match r with
    | [] => .error .emptyNumber
    | [.char '0'] => pure 0
    | .char '0' :: .char 'b' :: d => integerIn 2 d
    | .char '0' :: .char 'x' :: d => integerIn 16 d
    | .char '0' :: _ => integerIn 8 r
    | _ => ofSixtieths <$> (parts r).mapM (integerIn 10)
  return if isNegative s then -n else n

/-- The sum of digits in base sixty, the last of them first. Each digit is a number of its own, and every
step is rounded. -/
def sumOfSixtieths (base : Nat) (sum : Binary64) : List Binary64 → Except Problem Binary64
  | [] => .ok sum
  | d :: ds =>
    match Binary64.ofInt base with
    | .infinite _ => .error .tooGreat
    | b => sumOfSixtieths (60 * base) (sum.add (d.mul b)) ds

def number (node : Nat) (given : Glyphs) : Except Problem Atom := do
  let s := (withoutUnderscores given).lowercase
  if s.isEmpty then .error .emptyNumber
  let r := unsigned s
  if r = .ofText ".nan" then return .notNumber none
  let x ← if r = .ofText ".inf" then pure (.infinite false)
    else match parts r with
      | [r] => numberIn r
      | ps => do sumOfSixtieths 1 Binary64.zero (← ps.mapM numberIn).reverse
  match x with
  | .nan => return .notNumber (some node)
  | x => return .float (if isNegative s then x.neg else x)

def moment (s : Glyphs) : Except Problem Atom :=
  match s.text? with
  | some t => (Moment.ofText (Tag.withoutBreak t)).map .moment
  | none => .error .noTimestamp

def sextet? (c : Char) : Option Nat :=
  if 'A' ≤ c ∧ c ≤ 'Z' then some (c.toNat - 65)
  else if 'a' ≤ c ∧ c ≤ 'z' then some (c.toNat - 71)
  else if '0' ≤ c ∧ c ≤ '9' then some (c.toNat + 4)
  else if c = '+' then some 62
  else if c = '/' then some 63
  else none

/-- The digits in base 64 up to the padding that fills a group of four; other characters are skipped, and so
is padding that fills none. `size` is how much there is of a group, and `padding` how much of that is padding.
Without such padding the last group must be full. -/
def sextets? : Nat → Nat → Text → Option (List Nat)
  | size, _, [] => if size = 0 then some [] else none
  | size, padding, c :: s =>
    if c = '=' then
      if size < 2 then sextets? size padding s
      else if 4 ≤ size + padding + 1 then some []
      else sextets? size (padding + 1) s
    else match sextet? c with
      | none => sextets? size padding s
      | some d => (sextets? ((size + 1) % 4) 0 s).map (d :: ·)

def bytesOfSextets : List Nat → List UInt8
  | a :: b :: c :: d :: r =>
    UInt8.ofNat (4 * a + b / 16) :: UInt8.ofNat (16 * b + c / 4) :: UInt8.ofNat (64 * c + d) :: bytesOfSextets r
  | [a, b, c] => [UInt8.ofNat (4 * a + b / 16), UInt8.ofNat (16 * b + c / 4)]
  | [a, b] => [UInt8.ofNat (4 * a + b / 16)]
  | _ => []

def bytes (s : Glyphs) : Except Problem (List UInt8) :=
  let found := s.text?.bind fun t => if t.any fun c => 127 < c.toNat then none else sextets? 0 0 t
  found.elim (.error .malformed) fun ds => .ok (bytesOfSextets ds)

def truth (given : Glyphs) : Except Problem Bool :=
  let s := given.lowercase
  if s.text?.any (Tag.isOne Tag.trueWords) then .ok true
  else if s.text?.any (Tag.isOne Tag.falseWords) then .ok false
  else .error (.noTruth s)

def atom (node : Nat) (tag : Tag) (s : Glyphs) : Except Problem Atom :=
  match tag with
  | .null => .ok .null
  | .bool => (truth s).map .bool
  | .int => (integer s).map .int
  | .float => number node s
  | .timestamp => moment s
  | .binary => (bytes s).map .bytes
  | .str => .ok (.str s)
  | _ => .error .malformed

end Scalar

end RuleReview.Yaml
