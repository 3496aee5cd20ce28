import RuleReview.Text.Quoted

/-! # What is wrong with a field

Data from outside is checked field by field; each fault is an issue with its place, a path of field names
and positions.
-/
namespace RuleReview

inductive Step where
  | field (name : Text)
  | item (index : Nat)

def Step.toText : Step → Text
  | .field name => name
  | .item index => Text.ofNat index

inductive Issue.Kind where
  | missing
  | text
  | brokenText
  | list
  | tooShort
  | integer
  | integerText
  | integerFraction
  | integerInfinite
  | integerSize
  | number
  | numberText
  | above (n : Nat)
  | atLeast (n : Nat)
  | choice (names : Text)
  | rule (problem : Text)

def Issue.Kind.message : Issue.Kind → Text
  | .missing => "Field required"
  | .text => "Input should be a valid string"
  | .brokenText => "Input should be a valid string, unable to parse raw data as a unicode string"
  | .list => "Input should be a valid list"
  | .tooShort => "List should have at least 1 item after validation, not 0"
  | .integer => "Input should be a valid integer"
  | .integerText => "Input should be a valid integer, unable to parse string as an integer"
  | .integerFraction => "Input should be a valid integer, got a number with a fractional part"
  | .integerInfinite => "Input should be a finite number"
  | .integerSize => "Unable to parse input string as an integer, exceeded maximum size"
  | .number => "Input should be a valid number"
  | .numberText => "Input should be a valid number, unable to parse string as a number"
  | .above n => .concat ["Input should be greater than ", Text.ofNat n]
  | .atLeast n => .concat ["Input should be greater than or equal to ", Text.ofNat n]
  | .choice names => .concat ["Input should be ", names]
  | .rule problem => .concat ["Value error, ", problem]

structure Issue where
  place : List Step
  kind : Issue.Kind

end RuleReview
