import RuleReview.FileTree.Basic

/-! # The files of a folder

The entries below a folder, each directory's own ones first, sorted by name, then those of its directories,
also sorted. A link is listed and never entered; directories with excluded names are left out, and so are
links to directories under such names.
-/
namespace RuleReview.Entry

def sortTexts (l : List Text) : List Text := l.mergeSort Text.le

/-- What is found in a directory, as names from it: the entries that are listed, and the directories that
are entered, in the order in which they are looked at. -/
structure Findings where
  entries : List (List Text)
  folders : List (List Text)

/-- What a directory holds under a name: an entry of its own, a directory with what is found in it, or
nothing to be listed. -/
inductive Listed where
  | own
  | within (findings : Findings)
  | skipped

def Listed.own? (name : Text) : Listed → Option Text
  | .own => some name
  | _ => none

def Listed.within? (name : Text) : Listed → Option (Text × Findings)
  | .within f => some (name, f)
  | _ => none

/-- Own entries first, then directories, each sorted by name; all directories are looked at before the first
is entered. -/
def arrange (l : List (Text × Listed)) : Findings :=
  let own := sortTexts (l.filterMap fun (n, x) => x.own? n)
  let within := (l.filterMap fun (n, x) => x.within? n).mergeSort fun a b => a.1.le b.1
  { entries := own.map ([·]) ++ within.flatMap fun (n, f) => f.entries.map (n :: ·)
    folders := within.map ([·.1]) ++ within.flatMap fun (n, f) => f.folders.map (n :: ·) }

mutual

def walk (t : FileTree) (excluded : List Text) (p : Path) : Entry → Findings
  | .dir es => arrange (listing t excluded p es)
  | _ => ⟨[], []⟩

def listing (t : FileTree) (excluded : List Text) (p : Path) : List (Text × Entry) → List (Text × Listed)
  | [] => []
  | (n, e) :: es =>
    (n, match e with
      | .file _ => .own
      | .link _ =>
        if (t.hasDirectory (p.child n)).toOption = some true && excluded.contains n then .skipped else .own
      | .dir _ => if excluded.contains n then .skipped else .within (walk t excluded (p.child n) e))
      :: listing t excluded p es

end

def beneath (t : FileTree) (excluded : List Text) (place : List Text) (e : Entry) : List (List Text) :=
  (walk t excluded (.ofPlace place) e).entries

def childNames (t : FileTree) (p : Path) : List Text :=
  match find t true p with
  | .ok (.dir es) => sortTexts (es.map (·.1))
  | _ => []

end RuleReview.Entry
