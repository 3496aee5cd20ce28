import RuleReview.Text.Alike

/-! # Expressions

An expression is matched from left to right: each part takes characters, or looks at a place, and tells what may
come next. Parts that were named can be met again.
-/
namespace RuleReview

structure CharClass where
  negated : Bool
  ranges : List (Char × Char)
  deriving DecidableEq, Repr

namespace CharClass

def lists (k : CharClass) (c : Char) : Bool := k.ranges.any fun (lo, hi) => lo ≤ c && c ≤ hi

def holds (k : CharClass) (c : Char) : Bool := k.lists c != k.negated

def only (c : Char) : CharClass := ⟨false, [(c, c)]⟩

end CharClass

inductive Letters where
  | alike
  /-- Those that are alike and are Latin ones without marks. -/
  | plainlyAlike
  | same
  deriving DecidableEq, Repr

namespace Letters

def variants : Letters → Char → Text
  | .alike, c => Text.alike c
  | .plainlyAlike, c => Text.plainlyAlike c
  | .same, c => [c]

/-- The letter that stands for all those with the same small letter. -/
def key : Letters → Char → Char
  | .alike, c => Text.foldChar c
  | .plainlyAlike, c => c.toLower
  | .same, c => c

end Letters

/-- How many times a repeated part is taken: as many as will do, as few as will do, or as many as there are. -/
inductive Greed where
  | most
  | fewest
  | all
  deriving DecidableEq, Repr

abbrev Width := Nat × Nat

inductive Expression where
  | nothing
  | oneOf (k : CharClass) (letters : Letters)
  /-- The start of the text, or of any line. -/
  | start (anyLine : Bool)
  /-- The end of the text but for a line feed there, or of any line. -/
  | finish (anyLine : Bool)
  | seq (a b : Expression)
  | either (a b : Expression)
  | group (n : Nat) (a : Expression)
  /-- The text once more that a part has taken, whose width is known. -/
  | again (n : Nat) (letters : Letters) (width : Width)
  /-- A part some number of times; `most` is absent when there is no bound. -/
  | times (least : Nat) (most : Option Nat) (greed : Greed) (a : Expression)
  /-- Looks for a part ahead, or behind, and takes nothing; it has to be there, or must not be. -/
  | look (behind wanted : Bool) (a : Expression)
  | firstWay (a : Expression)
  /-- One part if a numbered one has matched, and another if not. -/
  | given (n : Nat) (yes no : Expression)
  deriving DecidableEq, Repr

namespace Expression

def widthLimit : Nat := Nat.pow 2 64

def countLimit : Nat := Nat.pow 2 32 - 1

def width : Expression → Width
  | .nothing | .start _ | .finish _ | .look .. => (0, 0)
  | .oneOf .. => (1, 1)
  | .seq a b => (min (a.width.1 + b.width.1) widthLimit, min (a.width.2 + b.width.2) widthLimit)
  | .either a b | .given _ a b => (min a.width.1 b.width.1, max a.width.2 b.width.2)
  | .group _ a | .firstWay a => a.width
  | .again _ _ w => w
  | .times least most _ a =>
    let (lo, hi) := a.width
    (min (lo * least) widthLimit,
      match most with
      | some m => min (hi * m) widthLimit
      | none => if hi = 0 then 0 else widthLimit)

/-- Whether every part that is looked for behind takes a fixed number of characters. -/
def looksFixed : Expression → Bool
  | .nothing | .oneOf .. | .start _ | .finish _ | .again .. => true
  | .seq a b | .either a b | .given _ a b => a.looksFixed && b.looksFixed
  | .group _ a | .times _ _ _ a | .firstWay a => a.looksFixed
  | .look behind _ a => a.looksFixed && (!behind || a.width.1 = a.width.2)

end Expression

end RuleReview
