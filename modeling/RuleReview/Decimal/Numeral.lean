import RuleReview.Decimal.Binary64
import RuleReview.Text.Blank
import RuleReview.Text.Glyph

/-! # Numerals

How numbers are written by people: with space around, a sign, and the digits of any script. Decimal integers
have a limit: longer ones are neither read nor written.
-/
namespace RuleReview.Numeral

def digitLimit : Nat := 4300

inductive Problem where
  | integer (base : Nat) (s : Glyphs)
  | number (s : Glyphs)
  | tooLong (digits : Nat)
  /-- An integer whose numeral would be too long. -/
  | unwritable

def shownLength : Nat := 200

def Problem.message : Problem → Text
  | .integer base s =>
    .concat ["invalid literal for int() with base ", Text.ofNat base, ": ", s.quoted.take shownLength]
  | .number s => .concat ["could not convert string to float: ", s.quoted]
  | .tooLong digits =>
    .concat ["Exceeds the limit (", Text.ofNat digitLimit, " digits) for integer string conversion: value has ",
      Text.ofNat digits, " digits; use sys.set_int_max_str_digits() to increase the limit"]
  | .unwritable =>
    .concat ["Exceeds the limit (", Text.ofNat digitLimit, " digits) for integer string conversion; use ",
      "sys.set_int_max_str_digits() to increase the limit"]

def isWritable (n : Int) : Bool := n.natAbs < Nat.pow 10 digitLimit

def ofInt (n : Int) : Except Problem Text := if isWritable n then .ok (Text.ofInt n) else .error .unwritable

def sign : Text → Bool × Text
  | '-' :: s => (true, s)
  | '+' :: s => (false, s)
  | s => (false, s)

def plainDigits (s : Text) : Text := s.map fun c => ((Text.digitValue? c).map Nat.digitChar).getD c

def baseMark? (base : Nat) : Option Char :=
  if base = 2 then some 'b' else if base = 8 then some 'o' else if base = 16 then some 'x' else none

def unmarked (base : Nat) (s : Text) : Text :=
  match s with
  | '0' :: c :: r => if baseMark? base = some c.toLower then r else s
  | _ => s

def isDigitOf (base : Nat) (c : Char) : Bool := (Text.hexValue? c).any (· < base)

def valueOf (base : Nat) (digits : Text) : Nat :=
  digits.foldl (fun n c => base * n + (Text.hexValue? c).getD 0) 0

/-- Reads an integer of a base. The limit counts before anything after the digits is looked at. -/
def integer (base : Nat) (given : Glyphs) : Except Problem Int :=
  let (negative, s) := sign ((plainDigits given.lossy).dropWhile Text.isSpace)
  let s := unmarked base s
  let digits := s.takeWhile (isDigitOf base)
  if base = 10 ∧ digitLimit < digits.length then .error (.tooLong digits.length)
  else if digits.isEmpty || !(s.drop digits.length).all Text.isSpace then .error (.integer base given)
  else
    let n : Int := valueOf base digits
    .ok (if negative then -n else n)

def natural? (s : Text) : Option Nat :=
  if s.isEmpty || !s.all Char.isDigit then none else some (Text.numberOfDigits s)

/-- The exponent after its letter; no letter is an exponent of zero. -/
def exponent? : Text → Option Int
  | [] => some 0
  | c :: s =>
    if c = 'e' ∨ c = 'E' then
      let (negative, s) := sign s
      (natural? s).map fun n => if negative then -n else n
    else none

def decimal? (negative : Bool) (s : Text) : Option Binary64 := do
  let whole := s.takeWhile Char.isDigit
  let s := s.dropWhile Char.isDigit
  let (fraction, s) := match s with
    | '.' :: r => (r.takeWhile Char.isDigit, r.dropWhile Char.isDigit)
    | r => ([], r)
  if whole.isEmpty && fraction.isEmpty then none
  let e ← exponent? s
  return Binary64.ofDecimal negative (Text.numberOfDigits (whole ++ fraction)) (e - fraction.length)

def number? (s : Text) : Option Binary64 :=
  let (negative, s) := sign s
  let word := Text.lower s
  if word = "nan".toList then some .nan
  else if word = "inf".toList || word = "infinity".toList then some (.infinite negative)
  else decimal? negative s

def trimSpace (s : Text) : Text := Text.dropTrailing Text.isSpace (s.dropWhile Text.isSpace)

def number (given : Glyphs) : Except Problem Binary64 :=
  (number? (trimSpace (plainDigits given.lossy))).elim (.error (.number given)) .ok

end RuleReview.Numeral
