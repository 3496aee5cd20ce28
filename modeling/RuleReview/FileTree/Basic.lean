import RuleReview.FileTree.Path
import RuleReview.Failure
import RuleReview.Text.Lines
import RuleReview.Text.Utf8

/-! # File trees

A file tree is a value: files with their bytes, symbolic links with their targets, and directories. A place
is the names that lead to an entry from the top with no link on the way; a path is followed to a place.
-/
namespace RuleReview

inductive Entry where
  | file (bytes : List UInt8)
  | link (target : Text)
  | dir (entries : List (Text × Entry))

abbrev FileTree := Entry

namespace Entry

def at? : Entry → List Text → Option Entry
  | e, [] => some e
  | .dir es, n :: ns => (es.lookup n).bind (at? · ns)
  | _, _ :: _ => none

def isDirectory : Entry → Bool
  | .dir _ => true
  | _ => false

def isRegular : Entry → Bool
  | .file _ => true
  | _ => false

/-- Where names lead from a place, up to the first link on the way. -/
inductive Stride where
  | reached (place : List Text)
  | link (place : List Text) (target : Text) (rest : List Text)
  /-- Nothing is at a place, from which more names would have led on. -/
  | missing (place rest : List Text)
  | failed (problem : FileProblem)

def nameLimit : Nat := 255

def pathLimit : Nat := 4096

def isTooLong (name : Text) : Bool := nameLimit < (Text.encode name).length

/-- Follows names from a place. A link that is the last name is followed only on demand; the name of the
directory itself asks for no more than that it is one. -/
def stride (t : FileTree) (follow : Bool) (place : List Text) : List Text → Stride
  | [] => .reached place
  | n :: rest =>
    match t.at? place with
    | some (.dir es) =>
      if n = ['.'] then stride t follow place rest
      else if n = ['.', '.'] then stride t follow place.dropLast rest
      else if isTooLong n then .failed .nameTooLong
      else match es.lookup n with
        | none => .missing (place ++ [n]) rest
        | some (.link target) =>
          if rest.isEmpty && !follow then .reached (place ++ [n]) else .link place target rest
        | some _ => stride t follow (place ++ [n]) rest
    | _ => .failed .notDirectory

def strideFrom (t : FileTree) (follow : Bool) : Nat → List Text → List Text → Stride
  | 0, _, _ => .failed .tooManyLinks
  | links + 1, place, names =>
    match stride t follow place names with
    | .link p target rest =>
      strideFrom t follow links (if target.startsWith "/" then [] else p) (Path.stepsOf target ++ rest)
    | other => other

/-- A path may lead through forty links. -/
def maxLinks : Nat := 41

def strideOf (t : FileTree) (follow : Bool) (s : Text) (names : List Text) : Stride :=
  if s.contains '\x00' then .failed .zeroByte
  else if pathLimit ≤ (Text.encode s).length then .failed .nameTooLong
  else strideFrom t follow maxLinks [] names

def Stride.place : Stride → Except FileProblem (List Text)
  | .reached p => .ok p
  | .link .. => .error .tooManyLinks
  | .missing .. => .error .absent
  | .failed e => .error e

def Stride.entry (t : FileTree) (s : Stride) : Except FileProblem Entry := do
  match t.at? (← s.place) with
  | some e => return e
  | none => .error .absent

def locate (t : FileTree) (follow : Bool) (p : Path) : Except FileProblem (List Text) :=
  (strideOf t follow p.toText p.names).place

def find (t : FileTree) (follow : Bool) (p : Path) : Except FileProblem Entry :=
  (strideOf t follow p.toText p.names).entry t

/-- The entry at a path as it is written: seen from a directory, and a directory itself if a slash ends it. -/
def findText (t : FileTree) (here : Path) (s : Text) : Except FileProblem Entry :=
  (strideOf t true s ((if s.startsWith "/" then [] else here.names) ++ Path.stepsOf s)).entry t

/-- The entry at a path, or that there is none. Only a path that is too long has no answer. -/
def found? (t : FileTree) (follow : Bool) (p : Path) : Except FileProblem (Option Entry) :=
  match find t follow p with
  | .ok e => .ok (some e)
  | .error .nameTooLong => .error .nameTooLong
  | .error _ => .ok none

def hasEntry (t : FileTree) (p : Path) : Except FileProblem Bool := (·.isSome) <$> found? t true p

def hasFile (t : FileTree) (p : Path) : Except FileProblem Bool := (·.any isRegular) <$> found? t true p

def hasDirectory (t : FileTree) (p : Path) : Except FileProblem Bool := (·.any isDirectory) <$> found? t true p

def linkTarget? (t : FileTree) (p : Path) : Except FileProblem (Option Text) := do
  match ← found? t false p with
  | some (.link target) => return some target
  | _ => return none

def readBytes (t : FileTree) (p : Path) : Except FileProblem (List UInt8) := do
  match ← find t true p with
  | .file bytes => return bytes
  | .dir _ => .error .isDirectory
  | .link _ => .error .tooManyLinks

/-- The text of a file, its line breaks as line feeds; what is no UTF-8 is replaced. -/
def readLossy (t : FileTree) (p : Path) : Except FileProblem Text :=
  (readBytes t p).map fun bs => Text.normalizeBreaks (Text.decodeLossy bs)

/-- The text of a file, its line breaks as line feeds, or the bytes of it that are no UTF-8. -/
def readText (t : FileTree) (p : Path) : Except FileProblem (Except Text.BadBytes Text) :=
  (readBytes t p).map fun bs =>
    match Text.decode? bs with
    | some s => .ok (Text.normalizeBreaks s)
    | none => .error (Text.badBytes bs)

def set (e : Entry) : Entry → List Text → Entry
  | _, [] => e
  | .dir es, n :: ns =>
    let below := set e ((es.lookup n).getD (.dir [])) ns
    .dir (if es.any (·.1 == n) then es.map fun x => if x.1 == n then (n, below) else x else es ++ [(n, below)])
  | _, n :: ns => .dir [(n, set e (.dir []) ns)]

def write (t : FileTree) (p : Path) (bytes : List UInt8) : Except FileProblem FileTree :=
  match strideOf t true p.toText p.names with
  | .missing place [] => .ok (set (.file bytes) t place)
  | .missing _ rest => .error (if rest = [['.']] then .isDirectory else .absent)
  | found => do
    let place ← found.place
    if (t.at? place).any isDirectory then .error .isDirectory else .ok (set (.file bytes) t place)

def makeDirectory (t : FileTree) (p : Path) : Except FileProblem FileTree :=
  match strideOf t false p.toText p.names with
  | .missing place [] => .ok (set (.dir []) t place)
  | found => do
    let _ ← found.place
    .error .exists

end Entry

end RuleReview
