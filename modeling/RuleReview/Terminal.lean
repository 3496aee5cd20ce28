import RuleReview.Failure
import RuleReview.Log

/-! # Terminals

A terminal shows markup in lines. Markup is text with tags in brackets, a style at `[style]` and its end at
`[/style]`; a tag that makes no sense is refused. The escaped form of a text is markup that shows the text as it is.
-/
namespace RuleReview

structure Terminal where
  escape : Text → Text
  render : Text → Except ForeignError Text
  data : Json → Text
  log : LogLine → Text

end RuleReview
