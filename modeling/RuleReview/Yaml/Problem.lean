import RuleReview.Decimal.Numeral

/-! # Why a text has no YAML value

A text may be no YAML at all, hold a scalar that is out of the range of its kind, or pass a limit.
-/
namespace RuleReview.Yaml

inductive Problem where
  | malformed
  | codePoint
  | codePointSize
  | numeral (problem : Numeral.Problem)
  | emptyNumber
  | noTruth (word : Glyphs)
  | noTimestamp
  | noTimestampText
  | tooGreat
  | tooDeep
  | year (n : Nat)
  | month
  | day
  | hour
  | minute
  | second
  | offset (days seconds : Int)

def spanText (days seconds : Int) : Text :=
  let parts := (if days = 0 then [] else [Text.concat ["days=", Text.ofInt days]]) ++
    if seconds = 0 then [] else [Text.concat ["seconds=", Text.ofInt seconds]]
  .concat ["datetime.timedelta(", if parts.isEmpty then "0" else Text.joinWith ", " parts, ")"]

def Problem.message : Problem → Text
  | .malformed => []
  | .codePoint => "chr() arg not in range(0x110000)"
  | .codePointSize => "Python int too large to convert to C int"
  | .numeral p => p.message
  | .emptyNumber => "string index out of range"
  | .noTruth word => word.quoted
  | .noTimestamp => "'NoneType' object has no attribute 'groupdict'"
  | .noTimestampText => "expected string or bytes-like object, got 'list'"
  | .tooGreat => "int too large to convert to float"
  | .tooDeep => "maximum recursion depth exceeded"
  | .year n => .concat ["year ", Text.ofNat n, " is out of range"]
  | .month => "month must be in 1..12"
  | .day => "day is out of range for month"
  | .hour => "hour must be in 0..23"
  | .minute => "minute must be in 0..59"
  | .second => "second must be in 0..59"
  | .offset days seconds =>
    .concat ["offset must be a timedelta strictly between -timedelta(hours=24) and timedelta(hours=24), not ",
      spanText days seconds, "."]

end RuleReview.Yaml
