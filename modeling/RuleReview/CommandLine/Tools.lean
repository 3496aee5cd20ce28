import RuleReview.CommandLine.Progress
import RuleReview.Console
import RuleReview.Decimal.Loose
import RuleReview.Environment.File
import RuleReview.Yaml.Header

/-! # The tools of the program -/
namespace RuleReview.CommandLine

def Tools.standard : Tools where
  terminal := Console.terminal
  loadVariables := Environment.load
  coercion := Loose.coercion
  header := Yaml.header

end RuleReview.CommandLine
