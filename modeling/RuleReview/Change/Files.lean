import RuleReview.Change
import RuleReview.Diff.Added
import RuleReview.FileTree.Folder
import RuleReview.FileTree.Real

/-! # Named files as a change

Files and folders named for review are shown as all-added sections, each under the path that it has seen
from the root of the review.
-/
namespace RuleReview.Change

def excludedFolders : List Text :=
  [".git", ".hg", ".svn", "node_modules", ".yarn", "dist", "build", ".next", "__pycache__", ".venv", "venv",
    ".tox", ".pytest_cache", ".mypy_cache", "target", ".gradle"]

def collectFile (t : FileTree) (root : Path) (raw : Text) : Except Failure Path := do
  let p := root.join (Path.ofText raw)
  let entry? (follow : Bool) : Except Failure (Option Entry) := (t.found? follow p).mapError (.noFile p.toText)
  if let some (.link _) ← entry? false then return p
  match ← entry? true with
  | none => throw (.repository (.fileMissing raw))
  | some (.file _) => return p
  | some _ => throw (.repository (.notFile raw))

/-- Looks at an entry below a path; only one whose path is too long cannot be looked at. -/
def lookAt (t : FileTree) (p : Path) (names : List Text) : Except Failure Unit :=
  ((t.found? false (p.below names)).map fun _ => ()).mapError (.noFile (p.below names).toText)

def collectFolder (t : FileTree) (root : Path) (raw : Text) (excluded : List Text) :
    Except Failure (List Path) := do
  let p := root.join (Path.ofText raw)
  match ← (t.found? true p).mapError (.noFile p.toText) with
  | none => throw (.repository (.folderMissing raw))
  | some (.dir es) =>
    let found := Entry.walk t excluded p (.dir es)
    found.folders.forM (lookAt t p)
    match found.entries with
    | [] => throw (.repository (.folderEmpty raw))
    | entries => return entries.map p.below
  | some _ => throw (.repository (.notFolder raw))

/-- The path under which an entry is shown: its names from the root as they stand, else with the links of
both resolved but its own, else the way there from the root. -/
def shownPath (t : FileTree) (root p : Path) : Except Failure Text := do
  let whole := p.whole
  let base := root.whole
  match base.from? whole with
  | some rest => return Path.namesText rest
  | none =>
    for q in [base, whole.parent] do
      if q.toText.contains '\x00' then throw (.noFile q.toText .zeroByte)
    let real := t.realPlace whole.parent ++ whole.names.getLast?.toList
    match (t.realPlace base).isPrefixOf? real with
    | some rest => return Path.namesText rest
    | none => return Path.namesText (Path.route base.names whole.names)

def sniffLength : Nat := 8000

def contentOfBytes (bs : List UInt8) : Option Text :=
  if (bs.take sniffLength).contains 0 then none else some (Text.decodeLossy bs)

/-- What git would record for an entry: a content, or none for a binary file, and a mode. -/
def recorded (t : FileTree) (p : Path) : Except FileProblem (Option Text × Text) := do
  match ← t.linkTarget? p with
  | some target => return (some target, Diff.linkMode)
  | none => return (contentOfBytes (← t.readBytes p), Diff.regularMode)

/-- The sections of files and their paths; a path that was shown already is skipped. -/
def addedFiles (t : FileTree) (root : Path) : List Text → List Path → Except Failure (List (Text × Text))
  | _, [] => .ok []
  | seen, p :: ps => do
    let shown ← shownPath t root p
    if seen.contains shown then addedFiles t root seen ps
    else match recorded t p with
      | .error e => .error (.ofFile (fun e => .repository (.unreadable shown p.toText e)) p.toText e)
      | .ok (content, mode) =>
        (addedFiles t root (shown :: seen) ps).map ((shown, Diff.addedSection shown content mode) :: ·)

def ofFiles (t : FileTree) (root : Path) (files : List Path) : Except Failure (Text × List Text) :=
  (addedFiles t root [] files).map fun sections => (sections.flatMap (·.2), sections.map (·.1))

end RuleReview.Change
