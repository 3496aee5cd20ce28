import RuleReview.Text.Blank
import RuleReview.Text.Case
import RuleReview.Text.Symbols

/-! # Symbols by name

A name between colons stands for a symbol. A name may end by asking for the look of a picture or of text.
-/
namespace RuleReview.Text

/-- Whether a word of the table is a symbol rather than a name. -/
def isSymbol (word : Text) : Bool :=
  word.any (fun c => c.toNat ≥ 0x80) && !word.any fun c => 'a' ≤ c && c ≤ 'z'

def symbolIn (name : Text) : Option Text → List Text → Option Text
  | _, [] => none
  | current, w :: ws =>
    if isSymbol w then symbolIn name (some w) ws else if w = name then current else symbolIn name current ws

def symbol? (name : Text) : Option Text :=
  let name := lowercase name
  (plainSymbols ++ flagSymbols ++ joinedSymbols).findSome? fun row => symbolIn name none (words row.toList)

/-- The symbol of a code; a code may end by asking for the look of a picture or of text. -/
def symbolOfCode? (code : Text) : Option Text :=
  let ending (e : Text) (selector : Char) : Option Text :=
    if code.endsWith e then (symbol? (code.take (code.length - e.length))).map (· ++ [selector]) else none
  if code.endsWith "-emoji" then ending "-emoji" '\uFE0F'
  else if code.endsWith "-text" then ending "-text" '\uFE0E'
  else symbol? code

/-- Puts symbols in the place of codes; `code` is what has been read since a colon, backwards. -/
def replaceCodesFrom : Option Text → Text → Text
  | none, [] => []
  | some code, [] => ':' :: code.reverse
  | none, c :: s => if c = ':' then replaceCodesFrom (some []) s else c :: replaceCodesFrom none s
  | some code, c :: s =>
    if c = ':' then
      ((symbolOfCode? code.reverse).getD (':' :: code.reverse ++ [':'])) ++ replaceCodesFrom none s
    else if isBlank c then ':' :: code.reverse ++ c :: replaceCodesFrom none s
    else replaceCodesFrom (some (c :: code)) s

def replaceCodes (s : Text) : Text := replaceCodesFrom none s

end RuleReview.Text
