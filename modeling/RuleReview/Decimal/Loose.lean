import RuleReview.Coercion
import RuleReview.Decimal.Numeral

/-! # Values given loosely

A number is also taken from a text, a truth value, or a number of the other kind that has the same value. A
text is a plain numeral, or one that becomes plain without the space around it, a plus sign, zeros in front, a
fraction of zeros, and single underscores. Texts and lists are taken as they are.
-/
namespace RuleReview.Loose

/-- The text without its underscores, if each stands alone and none at an end. -/
def withoutUnderscores? (s : Text) : Option Text :=
  if s.head? = some '_' || s.getLast? = some '_' || Text.holds "__" s then none
  else some (s.filter (· != '_'))

/-- An integer without a plus sign or zeros in front, and the number of its characters. -/
def plainInteger? (s : Text) : Option (Int × Nat) :=
  let (negative, digits) := match s with
    | '-' :: r => (true, r)
    | r => (false, r)
  match digits with
  | '0' :: _ :: _ => none
  | _ => (Numeral.natural? digits).map fun n => (if negative then -n else n, s.length)

def withoutPlus? : Text → Option Text
  | '+' :: s => if s.head? = some '-' then none else some s
  | s => some s

/-- What is left when the zeros and underscores after a first zero are dropped: a zero stays before a point,
and the last character if there is nothing else. -/
def afterZeros? (last : Char) : Text → Option Text
  | [] => some [last]
  | c :: s =>
    if c = '0' ∨ c = '_' then afterZeros? c s
    else if c = '.' then some (last :: c :: s)
    else if c = '-' ∨ c.isDigit then some (c :: s)
    else none

def withoutZeros? : Text → Option Text
  | '0' :: s => afterZeros? '0' s
  | '-' :: '0' :: s => (afterZeros? '0' s).map ('-' :: ·)
  | c :: s => if c = '-' ∨ c.isDigit then some (c :: s) else none
  | [] => none

def withoutFraction (s : Text) : Text :=
  match s.dropWhile (· != '.') with
  | '.' :: c :: zeros => if (c :: zeros).all (· == '0') then Text.upTo '.' s else s
  | _ => s

def integerText? (s : Text) : Option (Int × Nat) :=
  (plainInteger? s).orElse fun _ => do
    let s := withoutFraction (← withoutZeros? (← withoutPlus? (Numeral.trimSpace s)))
    plainInteger? ((withoutUnderscores? s).getD s)

def number? (s : Text) : Option Binary64 :=
  (Numeral.number? (Numeral.trimSpace s)).orElse fun _ => (withoutUnderscores? s).bind Numeral.number?

/-- Numerals of more characters are not read as integers. -/
def integerLength : Nat := 4300

/-- Floating-point numbers of this size and more are not read as integers. -/
def integerBound : Nat := Nat.pow 2 63

def integer : Json → Check Int
  | .int n => .pass n
  | .bool b => .pass (if b then 1 else 0)
  | .float x =>
    match x with
    | .finite .. =>
      match x.toInt? with
      | none => .wrong .integerFraction
      | some n => if n.natAbs < integerBound then .pass n else .wrong .integerSize
    | _ => .wrong .integerInfinite
  | .str s =>
    match integerText? s with
    | none => .wrong .integerText
    | some (n, size) => if integerLength < size then .wrong .integerSize else .pass n
  | .broken _ => .wrong .brokenText
  | _ => .wrong .integer

def number : Json → Check Binary64
  | .float x => .pass x
  | .int n =>
    match Binary64.ofInt n with
    | .infinite _ => .wrong .number
    | x => .pass x
  | .bool b => .pass (Binary64.ofInt (if b then 1 else 0))
  | .str s => Check.asked .numberText (number? s)
  | .broken _ => .wrong .brokenText
  | _ => .wrong .number

def text : Json → Check Glyphs
  | .str s => .pass (.ofText s)
  | .broken s => .pass s
  | _ => .wrong .text

def list : Json → Check (List Json)
  | .arr items => .pass items
  | _ => .wrong .list

def enumerated (names : List Text) : Text :=
  let quoted := names.map Text.quoted
  match quoted.reverse with
  | last :: front@(_ :: _) => .concat [Text.joinWith ", " front.reverse, " or ", last]
  | _ => quoted.flatten

def choice (names : List Text) : Json → Check Text
  | .str s => if names.contains s then .pass s else .wrong (.choice (enumerated names))
  | .broken _ => .wrong .brokenText
  | _ => .wrong (.choice (enumerated names))

/-- Values are taken loosely wherever nothing is lost. -/
def coercion : Coercion := { text, list, choice, integer, number }

end RuleReview.Loose
