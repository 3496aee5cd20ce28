import RuleReview.Rule
import RuleReview.Yaml.Shown

/-! # Headers in YAML

A header is a YAML document, whose values are those of its nodes. A text field takes a string or the bytes of one, and a
list field takes every collection but a mapping.
-/
namespace RuleReview.Yaml

def checkText : Object → Check Glyphs
  | .atom (.str s) => .pass s
  | .atom (.bytes bs) => Check.asked .brokenText ((Text.decode? bs).map .ofText)
  | _ => .wrong .text

def checkItems (d : Document) : Object → Check (List (Check Glyphs))
  | .list items => .pass (items.map fun id => checkText (d.object id))
  | .pairs items => .pass (items.map fun _ => .wrong .text)
  | .set items => .pass (items.map fun a => checkText (.atom a))
  | _ => .wrong .list

def ShowProblem.ofProblem : Problem → ShowProblem
  | .tooDeep => .tooDeep
  | p => .refused p.message

def mappingOf (d : Document) (ms : List (Atom × NodeId)) : HeaderMapping where
  members := ms.map fun
    | (.str k, v) => (some k, v)
    | (_, v) => (none, v)
  text id := checkText (d.object id)
  items id := checkItems d (d.object id)
  shown id := (d.shown id).mapError ShowProblem.ofProblem

def contentOf (d : Document) : HeaderContent :=
  let root := d.object d.root
  if root.isBlank then .blank
  else match root with
    | .map ms => .mapping (mappingOf d ms)
    | _ => .other

def header : HeaderLanguage := fun s =>
  match Document.ofText s with
  | .error .malformed => .error .malformed
  | .error p => .error (.broken (.scalar p))
  | .ok d => .ok (d.elim .blank contentOf)

end RuleReview.Yaml
