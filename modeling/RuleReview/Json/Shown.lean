import RuleReview.Json.Writer
import RuleReview.Text.Quoted

/-! # The text of a JSON value in a message

A text shows as itself on its own and quoted inside another value.
-/
namespace RuleReview.Json

mutual

def nested : Json → Text
  | .null => "None"
  | .bool b => if b then "True" else "False"
  | .int n => Text.ofInt n
  | .float x => x.toText
  | .str s => s.quoted
  | .broken s => s.quoted
  | .arr items => '[' :: nestedItems items ++ [']']
  | .obj members => '{' :: nestedMembers members ++ ['}']
  | .brokenObj members => '{' :: nestedBroken members ++ ['}']

def nestedItems : List Json → Text
  | [] => []
  | [v] => nested v
  | v :: vs => nested v ++ ',' :: ' ' :: nestedItems vs

def nestedMembers : List (Text × Json) → Text
  | [] => []
  | [(k, v)] => Text.quoted k ++ ':' :: ' ' :: nested v
  | (k, v) :: ms => Text.quoted k ++ ':' :: ' ' :: nested v ++ ',' :: ' ' :: nestedMembers ms

def nestedBroken : List (Glyphs × Json) → Text
  | [] => []
  | [(k, v)] => k.quoted ++ ':' :: ' ' :: nested v
  | (k, v) :: ms => k.quoted ++ ':' :: ' ' :: nested v ++ ',' :: ' ' :: nestedBroken ms

end

def shown : Json → Glyphs
  | .str s => .ofText s
  | .broken s => s
  | v => .ofText (nested v)

end RuleReview.Json
