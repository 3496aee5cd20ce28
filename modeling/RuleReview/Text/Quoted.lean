import RuleReview.Text.Digit
import RuleReview.Text.Printable

/-! # Texts quoted in messages

A text is shown between single quotes, or between double quotes when it holds a single quote and no
double one. What cannot be shown is written as an escape.
-/
namespace RuleReview.Text

def quoteMark (s : Text) : Char := if s.contains '\'' && !s.contains '"' then '"' else '\''

def quotedChar (q c : Char) : Text :=
  if c = q ∨ c = '\\' then ['\\', c]
  else if c = '\n' then ['\\', 'n']
  else if c = '\r' then ['\\', 'r']
  else if c = '\t' then ['\\', 't']
  else if isPrintable c then [c]
  else if c.toNat < 0x100 then '\\' :: 'x' :: hex 2 c.toNat
  else if c.toNat < 0x10000 then '\\' :: 'u' :: hex 4 c.toNat
  else '\\' :: 'U' :: hex 8 c.toNat

def quoted (s : Text) : Text := quoteMark s :: s.flatMap (quotedChar (quoteMark s)) ++ [quoteMark s]

end RuleReview.Text
