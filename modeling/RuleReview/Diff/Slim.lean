import RuleReview.Diff.Basic
import RuleReview.Failure

/-! # Narrowing a diff to its changes

Of each hunk the lines within `n` lines of a change are kept, and a marker is kept with the line before it.
A hunk without changes is dropped, and so is a section without hunks.
-/
namespace RuleReview

def nearChange (lines : List Line) (n i : Nat) : Bool :=
  ((lines.drop (i - n)).take (min i n + 1 + n)).any Line.isChange

def keeps (lines : List Line) (n : Nat) : Nat → Bool
  | 0 => lines[0]?.any fun l => !l.isMarker && nearChange lines n 0
  | i + 1 => lines[i + 1]?.any fun l => if l.isMarker then keeps lines n i else nearChange lines n (i + 1)

def keptPlaces (lines : List Line) (n : Nat) : List Nat := (List.range lines.length).filter (keeps lines n)

def keptLines (lines : List Line) (n : Nat) : List Line := (keptPlaces lines n).filterMap (lines[·]?)

def skippedLines (lines : List Line) (n : Nat) : List Line := lines.take ((keptPlaces lines n).headD 0)

/-- The hunk with the lines that are kept, and the place and length that are theirs. -/
def Hunk.slimmed (h : Hunk) (n : Nat) : Hunk :=
  let skipped := skippedLines h.lines n
  let kept := keptLines h.lines n
  let oldStart := h.oldStart + skipped.countP Line.inOld
  let newStart := h.newStart + skipped.countP Line.inNew
  let oldCount := kept.countP Line.inOld
  let newCount := kept.countP Line.inNew
  { oldStart, oldCount, newStart, newCount
    heading := h.heading
    header := Hunk.formatHeader oldStart oldCount newStart newCount h.heading
    lines := kept }

def Hunk.slim? (h : Hunk) (n : Nat) : Option Hunk := if h.hasChanges then some (h.slimmed n) else none

def Hunk.isWritable (h : Hunk) : Bool :=
  [h.oldStart, h.oldCount, h.newStart, h.newCount].all Numeral.isWritable

/-- The hunk narrowed to any window. A window below zero keeps no line, so that changes have no first place. -/
def Hunk.narrow (h : Hunk) (n : Int) : Except Failure (Option Hunk) :=
  if n < 0 ∧ h.hasChanges then .error .outOfRange
  else
    let slim := h.slim? n.toNat
    if slim.all Hunk.isWritable then .ok slim else .error (.numeral .unwritable)

def Section.slim? (s : Section) (n : Nat) : Option Section :=
  match s.hunks.filterMap (Hunk.slim? · n) with
  | [] => none
  | hunks => some { s with hunks }

/-- A diff made of some sections of another one; without sections there is no preamble. -/
def Diff.withSections (d : Diff) (sections : List Section) : Diff :=
  ⟨sections, if sections.isEmpty then [] else d.preamble, d.endsWithNewline⟩

def Diff.slim (d : Diff) (n : Nat) : Diff := d.withSections (d.sections.filterMap (Section.slim? · n))

def Diff.isWritable (d : Diff) : Bool := d.sections.all fun s => s.hunks.all Hunk.isWritable

def Diff.narrow (d : Diff) (n : Int) : Except Failure Diff :=
  let slim := d.slim n.toNat
  if n < 0 then .error (.window n)
  else if slim.isWritable then .ok slim
  else .error (.numeral .unwritable)

end RuleReview
