import RuleReview.FileTree.Basic

/-! # Paths without links

The real path of a path is what is left when every link on it is replaced by its target. Names that do not exist
stay as they are, and so does a link whose own path is too long to be looked at. A link that leads to itself has
no target, and from it on the path stays as it is.
-/
namespace RuleReview

namespace Path

/-- The path of the directory above. A relative path leads above where it starts by two dots. -/
def above (p : Path) : Path :=
  match p.names.getLast? with
  | none => if p.absolute then p else p.child ['.', '.']
  | some n => if n = ['.', '.'] then p.child n else p.parent

def whole (p : Path) : Path := (root.join p).normal

end Path

namespace Entry

mutual

/-- How many names the targets of all links have, each of them one more for the link. -/
def linkSize : Entry → Nat
  | .link target => (Path.ofText target).names.length + 1
  | .file _ => 0
  | .dir es => linkSizes es

def linkSizes : List (Text × Entry) → Nat
  | [] => 0
  | (_, e) :: es => linkSize e + linkSizes es

end

end Entry

structure Real where
  path : Path
  looped : Bool := false
  seen : List (Path × Option Path) := []

namespace Real

/-- A path with the parts behind it left as they are; a slash in front of them leads to the top. -/
def unresolved (p : Path) (parts : List Text) (seen : List (Path × Option Path)) : Real :=
  ⟨p.join (.ofText (Text.joinWith "/" parts)), true, seen⟩

/-- Follows the parts of a text from a path without links. Every link is opened once under each of its paths, so
that the names that are left and those of the links not opened yet bound the steps. -/
def follow (t : FileTree) : Nat → List (Path × Option Path) → Path → List Text → Real
  | 0, seen, p, parts => unresolved p parts seen
  | fuel + 1, seen, p, parts =>
    match parts.dropWhile (!Path.isNamed ·) with
    | [] => ⟨p, false, seen⟩
    | n :: rest =>
      if n = ['.', '.'] then follow t fuel seen p.above rest
      else match t.find false (p.child n) with
        | .ok (.link target) =>
          match seen.lookup (p.child n) with
          | some (some q) => follow t fuel seen q rest
          | some none => unresolved (p.child n) rest seen
          | none =>
            let start := if target.startsWith "/" then .root else p
            let r := follow t fuel ((p.child n, none) :: seen) start (target.splitOn '/')
            if r.looped then unresolved r.path rest r.seen
            else follow t fuel ((p.child n, some r.path) :: r.seen) r.path rest
        | _ => follow t fuel seen (p.child n) rest

end Real

namespace Entry

def realSteps (t : FileTree) (p : Path) : Nat := (p.names.length + linkSize t + 1) * pathLimit

def real (t : FileTree) (p : Path) : Real :=
  Real.follow t (realSteps t p) [] ⟨if p.absolute then .top else .here, []⟩ p.names

def realPath (t : FileTree) (p : Path) : Path := (real t p).path.whole

def realPlace (t : FileTree) (p : Path) : List Text := (realPath t p).names

/-- The path without links. A loop may have dropped out of it again; only if following the path that is left
leads into one, it has no place. -/
def resolve (t : FileTree) (p : Path) : Except Failure Path :=
  let q := realPath t p
  if p.toText.contains '\x00' then .error (.noFile p.toText .zeroByte)
  else match find t true q with
    | .error .tooManyLinks => .error (.linkLoop q.toText)
    | _ => .ok q

end Entry

end RuleReview
