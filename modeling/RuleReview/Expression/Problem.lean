import RuleReview.Decimal.Numeral

/-! # Why a text is no expression -/
namespace RuleReview.Expression

inductive FlagFault where
  | missing (what : Text)
  | unknown
  | localeOnText
  | incompatible
  | cannotTurnOff
  | globalOn
  | globalOff
  | onAndOff
  deriving DecidableEq, Repr

def FlagFault.message : FlagFault → Text
  | .missing what => .concat ["missing ", what]
  | .unknown => "unknown flag"
  | .localeOnText => "bad inline flags: cannot use 'L' flag with a str pattern"
  | .incompatible => "bad inline flags: flags 'a', 'u' and 'L' are incompatible"
  | .cannotTurnOff => "bad inline flags: cannot turn off flags 'a', 'u' and 'L'"
  | .globalOn => "bad inline flags: cannot turn on global flag"
  | .globalOff => "bad inline flags: cannot turn off global flag"
  | .onAndOff => "bad inline flags: flag turned on and off"

inductive Fault where
  | unclosedClass
  | badRange (low high : Text)
  | leastOverMost
  | nothingToRepeat
  | repeatedTwice
  | ended
  | noName
  | unclosedName (close : Char)
  | badName (name : Text)
  | unknownName (name : Text)
  | takenName (name : Text) (n taken : Nat)
  | openGroup
  | sameLook
  | unknownExtension (sign : Text)
  | unclosedComment
  | unclosedGroup
  | notOpened
  | groupZero
  | noGroup (n : Nat)
  | thirdBranch
  | lateFlags
  | flags (fault : FlagFault)
  deriving DecidableEq, Repr

def Fault.message : Fault → Text
  | .unclosedClass => "unterminated character set"
  | .badRange low high => .concat ["bad character range ", low, "-", high]
  | .leastOverMost => "min repeat greater than max repeat"
  | .nothingToRepeat => "nothing to repeat"
  | .repeatedTwice => "multiple repeat"
  | .ended => "unexpected end of pattern"
  | .noName => "missing group name"
  | .unclosedName close => .concat ["missing ", [close], ", unterminated name"]
  | .badName name => .concat ["bad character in group name ", name.quoted]
  | .unknownName name => .concat ["unknown group name ", name.quoted]
  | .takenName name n taken =>
    .concat ["redefinition of group name ", name.quoted, " as group ", Text.ofNat n, "; was group ",
      Text.ofNat taken]
  | .openGroup => "cannot refer to an open group"
  | .sameLook => "cannot refer to group defined in the same lookbehind subpattern"
  | .unknownExtension sign => .concat ["unknown extension ", sign]
  | .unclosedComment => "missing ), unterminated comment"
  | .unclosedGroup => "missing ), unterminated subpattern"
  | .notOpened => "unbalanced parenthesis"
  | .groupZero => "bad group number"
  | .noGroup n => .concat ["invalid group reference ", Text.ofNat n]
  | .thirdBranch => "conditional backref with more than two branches"
  | .lateFlags => "global flags not at the start of the expression"
  | .flags fault => fault.message

/-- A place in a text of several lines; positions count from zero, lines and columns from one. -/
structure Place where
  position : Nat
  line : Nat
  column : Nat
  deriving DecidableEq, Repr

def Place.of (whole : Text) (position : Nat) : Place :=
  let before := whole.take position
  ⟨position, before.count '\n' + 1, (before.reverse.takeWhile (· != '\n')).length + 1⟩

inductive Problem where
  | fault (what : Fault) (place : Place) (manyLines : Bool)
  | looseLook
  | tooManyTimes
  | numeral (problem : Numeral.Problem)

def Problem.message : Problem → Text
  | .fault what place manyLines =>
    .concat [what.message, " at position ", Text.ofNat place.position,
      if manyLines then
        .concat [" (line ", Text.ofNat place.line, ", column ", Text.ofNat place.column, ")"]
      else []]
  | .looseLook => "look-behind requires fixed-width pattern"
  | .tooManyTimes => "the repetition number is too large"
  | .numeral p => p.message

end RuleReview.Expression
