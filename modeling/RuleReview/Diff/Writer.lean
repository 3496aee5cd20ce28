import RuleReview.Diff.Basic
import RuleReview.Text.Lines

/-! # Writing diffs

Every line that was read is kept, so writing is joining them again.
-/
namespace RuleReview

def Hunk.allLines (h : Hunk) : List Text := h.header :: h.lines

def Section.allLines (s : Section) : List Text := s.header ++ s.hunks.flatMap Hunk.allLines

def Diff.allLines (d : Diff) : List Text := d.preamble ++ d.sections.flatMap Section.allLines

def Diff.serialize (d : Diff) : Text :=
  if d.allLines.isEmpty then []
  else Text.joinLines d.allLines ++ (if d.endsWithNewline then ['\n'] else [])

end RuleReview
