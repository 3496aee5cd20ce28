import RuleReview.Diff.Basic
import RuleReview.Diff.Path
import RuleReview.Text.Lines

/-! # Reading diffs

The lines of a text are first grouped: `diff --git` opens a section, `@@` opens a hunk, and every other
line belongs to what was opened last. Then the headers of the groups are read in order.
-/
namespace RuleReview.Diff

structure RawHunk where
  header : Text
  number : Nat
  body : List Text

structure RawSection where
  header : Text
  extra : List Text
  hunks : List RawHunk

/-- Lines by what they belong to: those before anything is opened, the hunks before any section, and the
sections. -/
structure Outline where
  loose : List Text
  hunks : List RawHunk
  sections : List RawSection

def opensSection (line : Text) : Bool := line.startsWith gitHeaderMark

def opensHunk (line : Text) : Bool := line.startsWith "@@"

def outline (n : Nat) : List Text → Outline
  | [] => ⟨[], [], []⟩
  | l :: ls =>
    let o := outline (n + 1) ls
    if opensSection l then ⟨[], [], ⟨l, o.loose, o.hunks⟩ :: o.sections⟩
    else if opensHunk l then ⟨[], ⟨l, n, o.loose⟩ :: o.hunks, o.sections⟩
    else ⟨l :: o.loose, o.hunks, o.sections⟩

def digits? (s : Text) : Option (Text × Text) :=
  match s.takeWhile Text.isDigit with
  | [] => none
  | ds => some (ds, s.dropWhile Text.isDigit)

/-- The numerals of a place and a length at the front of a text; a length of one may be left out. -/
def range? (s : Text) : Option (Text × Text × Text) := do
  let (start, rest) ← digits? s
  match rest with
  | ',' :: rest => let (count, rest) ← digits? rest; return (start, count, rest)
  | rest => return (start, "1", rest)

def headerParts? (header : Text) : Option ((Text × Text) × (Text × Text) × Text) := do
  let rest ← header.after? "@@ -"
  let (oldStart, oldCount, rest) ← range? rest
  let rest ← rest.after? " +"
  let (newStart, newCount, rest) ← range? rest
  let heading ← rest.after? " @@"
  return ((oldStart, oldCount), (newStart, newCount), heading)

def numberOf (digits : Text) : Except Failure Int :=
  if Numeral.digitLimit < digits.length then .error (.numeral (.tooLong digits.length))
  else .ok (Text.numberOfDigits digits)

def readHunk (raw : RawHunk) : Except Failure Hunk := do
  match headerParts? raw.header with
  | some ((oldStart, oldCount), (newStart, newCount), heading) =>
    return ⟨← numberOf oldStart, ← numberOf oldCount, ← numberOf newStart, ← numberOf newCount, heading,
      raw.header, raw.body⟩
  | none => .error (.diff (some raw.number) (.badHunkHeader raw.header))

def applyHeaderLine (s : Section) (line : Text) : Except Failure Section :=
  if line.startsWith "new file mode" then .ok { s with isNew := true }
  else if line.startsWith "deleted file mode" then .ok { s with isDeleted := true }
  else match line.after? "rename from " with
  | some name =>
    (barePath name).map fun p => { s with oldPath := p.or s.oldPath, isRenamed := true }
  | none => match line.after? "rename to " with
  | some name =>
    (barePath name).map fun p => { s with newPath := p.or s.newPath, isRenamed := true }
  | none =>
    if line.startsWith "Binary files " || line.startsWith "GIT binary patch" then
      .ok { s with isBinary := true }
    else match line.after? "--- " with
    | some name => (markedPath name).map fun
      | none => { s with isNew := true }
      | some p => { s with oldPath := some p }
    | none => match line.after? "+++ " with
    | some name => (markedPath name).map fun
      | none => { s with isDeleted := true, newPath := none }
      | some p => { s with newPath := some p }
    | none => .ok s

def readHeader (mark : Text) (extra : List Text) : Except Failure Section := do
  let (oldPath, newPath) ← headerPaths mark
  extra.foldlM applyHeaderLine { header := mark :: extra, oldPath, newPath }

def readSection (raw : RawSection) : Except Failure Section := do
  let s ← readHeader raw.header raw.extra
  let hunks ← raw.hunks.mapM readHunk
  return { s with hunks }

def ofOutline (o : Outline) (endsWithNewline : Bool) : Except Failure Diff := do
  match o.hunks with
  | h :: _ => .error (.diff (some h.number) .strayHunk)
  | [] => return ⟨← o.sections.mapM readSection, o.loose, endsWithNewline⟩

def textLines (s : Text) : List Text × Bool :=
  if s.isEmpty then ([], false)
  else
    let ls := s.splitLines
    if ls.getLast? = some [] then (ls.dropLast, true) else (ls, false)

/-- Reads a diff. It fails on a hunk header before any section, on a malformed one or one with too long a
numeral, and on a quoted path with an escape beyond a byte. -/
def parse (s : Text) : Except Failure Diff :=
  ofOutline (outline 1 (textLines s).1) (textLines s).2

end RuleReview.Diff
