import RuleReview.Coercion
import RuleReview.Failure
import RuleReview.Json.Reader

/-! # Verdicts

A model answers with a JSON object, perhaps inside a fence and between other text. What is read is the text
from the first opening brace to the last closing one, within the first fence if there is one.
-/
namespace RuleReview

inductive Standing where
  | compliant
  | attention
  | notRelevant
  deriving DecidableEq, Repr

namespace Standing

def all : List Standing := [.compliant, .attention, .notRelevant]

def name : Standing → Text
  | .compliant => "compliant"
  | .attention => "attention"
  | .notRelevant => "not_relevant"

def names : List Text := all.map name

def ofName? (s : Text) : Option Standing := all.find? (·.name = s)

/-- The plain form of a name, which may be in capitals, with hyphens or spaces, and with blanks around it. -/
def plain (s : Text) : Text := (Text.lower s.trim).map fun c => if c = '-' ∨ c = ' ' then '_' else c

end Standing

structure Verdict where
  standing : Standing
  reasoning : Glyphs
  citations : List Glyphs

namespace Verdict

def fence : Text := "```"

/-- What stands in the first complete fence, or the whole text. -/
def unfenced (s : Text) : Text :=
  match (Text.cut? fence s).bind fun (_, rest) => Text.cut? fence rest with
  | some (inside, _) => inside
  | none => s

def upToBrace? (s : Text) : Option Text :=
  let kept := Text.dropTrailing (· != '\x7d') s
  if kept.isEmpty then none else some kept

def objectText? (s : Text) : Option Text :=
  match (unfenced s).dropWhile (· != '\x7b') with
  | [] => none
  | found => upToBrace? found

variable (c : Coercion)

def checkStanding (v : Json) : Check Standing :=
  let word := match v with
    | .str s => .str (Standing.plain s)
    | v => v
  (c.choice Standing.names word).andThen fun name => Check.asked (.choice name) (Standing.ofName? name)

def optional (name : Text) (members : List (Text × Json)) (absent : α) (check : Json → Check α) : Check α :=
  Check.field name members (.pass absent) fun
    | .null => .pass absent
    | v => check v

/-- The members with the second name of the citations read as the first, unless that is there too. -/
def withCitations (members : List (Text × Json)) : List (Text × Json) :=
  match members.lookup "file_references".toList, members.lookup "fileReferences".toList with
  | none, some v => members ++ [("file_references".toList, v)]
  | _, _ => members

def check (members : List (Text × Json)) : Check Verdict :=
  let ms := withCitations members
  Verdict.mk <$> Check.field "status" ms (.wrong .missing) (checkStanding c)
    <*> optional "reasoning" ms [] c.text
    <*> optional "file_references" ms [] c.texts

def ofAnswer (s : Text) : Except Failure Verdict :=
  match objectText? s with
  | none => .error (.provider .noObject)
  | some text =>
    match Json.parse text with
    | .error p => .error (.ofJson (fun p => .provider (.badJson p)) p)
    | .ok v =>
      match v.members? with
      | some members => (check c members).toExcept.mapError fun is => .provider (.invalid is)
      | none => .error (.provider .notObject)

end Verdict

end RuleReview
