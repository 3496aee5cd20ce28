import RuleReview.Git.History
import RuleReview.Git.Worktree
import RuleReview.Scope
import RuleReview.Settings

/-! # The change of a scope -/
namespace RuleReview

namespace Settings

def fetching (s : Settings) : Fetching := ⟨s.remote.lossy, s.gitWindow, s.fetchDepth⟩

end Settings

namespace Scope

/-- A ref from outside, refused before it reaches git. -/
def acceptRef (ref : Text) : Except Failure Text :=
  match Ref.problem? ref with
  | some p => .error (.repository (.badRef ref p))
  | none => .ok ref

def collectPaths (t : FileTree) (root : Path) (kind : PathKind) (names : List Text) :
    Except Failure (List Path) :=
  match kind with
  | .folder => do return (← names.mapM fun n => Change.collectFolder t root n Change.excludedFolders).flatten
  | _ => names.mapM (Change.collectFile t root)

def pathsChange (t : FileTree) (root : Path) (kind : PathKind) (names : List Text) :
    Except Failure Change := do
  if names.isEmpty then throw (.repository (.noPaths kind.name))
  let (text, shown) ← Change.ofFiles t root (← collectPaths t root kind names)
  Change.build text shown .explicit none none []

/-- Computes the change under review; a head that is not named is the one checked out. -/
def change (t : FileTree) (root : Path) (s : Settings) : Scope → Session Change
  | .pullRequest source target _ _ => do
    let target ← Session.ofExcept (acceptRef target)
    Session.log .info (.concat ["Comparing ", source, " against merge base with ", target])
    History.branchChange s.fetching target "HEAD"
  | .commit ref => do
    let ref ← Session.ofExcept (acceptRef ref)
    Session.log .info (.concat ["Reviewing commit ", ref])
    History.commitChange s.fetching ref
  | .worktree => Worktree.collect t root s.gitWindow
  | .paths kind names => Session.ofExcept (pathsChange t root kind names)

end Scope

end RuleReview
