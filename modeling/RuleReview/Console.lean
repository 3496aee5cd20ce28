import RuleReview.Json.Writer
import RuleReview.Markup
import RuleReview.Terminal
import RuleReview.Text.Lines
import RuleReview.Text.Wrap

/-! # Lines on a terminal

Text is shown in lines that fit the columns of a terminal. A log line starts with its level, and what does not
fit on its first line is indented as far as its message.
-/
namespace RuleReview.Console

def columns : Nat := 5000

def lines (limit : Nat) (s : Text) : List Text :=
  (Text.splitLines s).flatMap fun line => Text.wrap limit (Text.expandTabs line)

def paragraph (s : Text) : Text := Text.joinLines (lines columns s) ++ ['\n']

def levelWidth : Nat := 8

def logText (l : LogLine) : Text :=
  let level := l.level.name
  let margin := List.replicate (levelWidth + 1) ' '
  let message := lines (columns - margin.length) (l.message.filter (!Markup.isControl ·))
  level ++ margin.drop level.length ++ Text.joinWith ('\n' :: margin) message ++ ['\n']

def terminal : Terminal where
  escape := Markup.escape
  render markup := ((Markup.render markup).mapError fun f => ⟨f.label, f.message, none⟩).map paragraph
  data j := j.pretty (fun _ => true) 0 ++ ['\n']
  log := logText

end RuleReview.Console
