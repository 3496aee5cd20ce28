import RuleReview.Text.Basic

/-! # Paths

A path is a list of names and where they start: at some directory, or at the top of the file tree. Empty names
and `.` are dropped on reading; `..` is kept, since what it means depends on links.
-/
namespace RuleReview

/-- Where a path starts. Two slashes name the top as well as one, but they are not the same text. -/
inductive Origin where
  | here
  | top
  | doubledTop
  deriving DecidableEq, Repr

namespace Origin

def toText : Origin → Text
  | .here => []
  | .top => ['/']
  | .doubledTop => ['/', '/']

/-- Two slashes in front are kept, but no other number of them. -/
def ofText (s : Text) : Origin :=
  match (s.takeWhile (· == '/')).length with
  | 0 => .here
  | 2 => .doubledTop
  | _ => .top

end Origin

structure Path where
  origin : Origin
  names : List Text
  deriving DecidableEq, Repr

namespace Path

def root : Path := ⟨.top, []⟩

def ofPlace (names : List Text) : Path := ⟨.top, names⟩

def absolute (p : Path) : Bool := p.origin != .here

def isNamed (n : Text) : Bool := !n.isEmpty && n != ['.']

def ofText (s : Text) : Path := ⟨.ofText s, (s.splitOn '/').filter isNamed⟩

/-- The names of a text that is followed as it stands. A slash or a dot at its end asks for a directory; that
is a dot at the end of the names. -/
def stepsOf (s : Text) : List Text :=
  let parts := s.splitOn '/'
  parts.filter isNamed ++ if parts.getLast?.any isNamed then [] else [['.']]

def namesText (names : List Text) : Text := if names.isEmpty then ['.'] else Text.joinWith "/" names

def toText (p : Path) : Text :=
  if p.absolute then p.origin.toText ++ Text.joinWith "/" p.names else namesText p.names

def join (p q : Path) : Path := if q.absolute then q else ⟨p.origin, p.names ++ q.names⟩

def from? (base p : Path) : Option (List Text) :=
  if base.origin = p.origin then base.names.isPrefixOf? p.names else none

def below (p : Path) (names : List Text) : Path := ⟨p.origin, p.names ++ names⟩

def child (p : Path) (name : Text) : Path := ⟨p.origin, p.names ++ [name]⟩

def parent (p : Path) : Path := ⟨p.origin, p.names.dropLast⟩

def normalNames (names : List Text) : List Text :=
  names.foldl (fun done n => if n = "..".toList then done.dropLast else done ++ [n]) []

def normal (p : Path) : Path := ⟨p.origin, normalNames p.names⟩

def commonLength : List Text → List Text → Nat
  | a :: as, b :: bs => if a = b then commonLength as bs + 1 else 0
  | _, _ => 0

def route (base names : List Text) : List Text :=
  let k := commonLength base names
  List.replicate (base.length - k) ['.', '.'] ++ names.drop k

end Path

end RuleReview
