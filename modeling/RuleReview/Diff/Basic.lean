import RuleReview.Text.Basic

/-! # Unified diffs

A diff is a preamble and a list of sections, one for each `diff --git` line; a section is its header lines
and hunks; a hunk is its header and lines. The kind of a line is decided by its first character, so a line
is just its text.
-/
namespace RuleReview

abbrev Line := Text

inductive LineKind where
  | added
  | removed
  | context
  deriving DecidableEq, Repr

namespace Line

def kind : Line → LineKind
  | '+' :: _ => .added
  | '-' :: _ => .removed
  | _ => .context

def isChange (l : Line) : Bool := l.kind != .context

/-- The note that the line before it has no line feed. -/
def isMarker : Line → Bool
  | '\\' :: _ => true
  | _ => false

def inOld (l : Line) : Bool := l.kind != .added && !l.isMarker

def inNew (l : Line) : Bool := l.kind != .removed && !l.isMarker

def content : Line → Text
  | '+' :: s | '-' :: s | ' ' :: s => s
  | s => s

end Line

/-- A run of lines, with the place and length that its header states for the old and the new file. The
header is kept as it was written. -/
structure Hunk where
  oldStart : Int
  oldCount : Int
  newStart : Int
  newCount : Int
  heading : Text
  header : Text
  lines : List Line
  deriving DecidableEq, Repr

namespace Hunk

def formatHeader (oldStart oldCount newStart newCount : Int) (heading : Text) : Text :=
  .concat ["@@ -", Text.ofInt oldStart, ",", Text.ofInt oldCount, " +", Text.ofInt newStart, ",",
    Text.ofInt newCount, " @@", heading]

def hasChanges (h : Hunk) : Bool := h.lines.any Line.isChange

end Hunk

structure Section where
  header : List Text
  hunks : List Hunk := []
  oldPath : Option Text := none
  newPath : Option Text := none
  isNew : Bool := false
  isDeleted : Bool := false
  isRenamed : Bool := false
  isBinary : Bool := false
  deriving DecidableEq, Repr

/-- The path after the change, or the removed path. -/
def Section.path (s : Section) : Option Text := s.newPath.or s.oldPath

structure Diff where
  sections : List Section
  preamble : List Text
  endsWithNewline : Bool
  deriving DecidableEq, Repr

namespace Diff

def changedFiles (d : Diff) : List Text := (d.sections.filterMap Section.path).eraseDups

def lines (d : Diff) : List Line := d.sections.flatMap fun s => s.hunks.flatMap Hunk.lines

def addedLines (d : Diff) : Nat := d.lines.countP (Line.kind · == .added)

def removedLines (d : Diff) : Nat := d.lines.countP (Line.kind · == .removed)

def isEmpty (d : Diff) : Bool := d.sections.isEmpty && d.preamble.all List.isEmpty

end Diff

end RuleReview
