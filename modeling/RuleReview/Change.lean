import RuleReview.Diff.Reader
import RuleReview.Text.Blank

/-! # A change under review

The text of a diff, the paths that it touches and where it comes from. A change without a text may still
list paths: their files were touched without a change of content.
-/
namespace RuleReview

inductive Strategy where
  | mergeBase
  | twoPoint
  | commit
  | staged
  | unstaged
  | explicit
  deriving DecidableEq, Repr

def Strategy.name : Strategy → Text
  | .mergeBase => "merge-base"
  | .twoPoint => "two-point"
  | .commit => "commit"
  | .staged => "staged"
  | .unstaged => "unstaged"
  | .explicit => "explicit"

structure Change where
  text : Text
  files : List Text
  strategy : Strategy
  base : Option Text := none
  head : Option Text := none
  warnings : List Text := []

namespace Change

/-- The change of a text; its paths are those of its sections, or `names` when the text is blank. -/
def build (text : Text) (names : List Text) (strategy : Strategy) (base head : Option Text)
    (warnings : List Text) : Except Failure Change :=
  if text.isBlankText then
    .ok ⟨[], (names.filter (!·.isEmpty)).eraseDups, strategy, base, head, warnings⟩
  else (Diff.parse text).map fun d => ⟨text, d.changedFiles, strategy, base, head, warnings⟩

def hasContent (c : Change) : Bool := !c.text.isEmpty

def parsed (c : Change) : Except Failure Diff := Diff.parse c.text

end Change

end RuleReview
