import RuleReview.Failure

/-! # What is under review -/
namespace RuleReview

inductive PathKind where
  | file
  | folder
  | files
  deriving DecidableEq, Repr

def PathKind.name : PathKind → Text
  | .file => "file"
  | .folder => "folder"
  | .files => "files"

def PathKind.ofName (s : Text) : Except Failure PathKind :=
  match [PathKind.file, .folder, .files].find? (·.name = s) with
  | some k => .ok k
  | none => .error (.unknownName s "PathKind")

/-- A pull request is compared with its target, a commit with its first parent; named paths are reviewed as
if they were new. -/
inductive Scope where
  | pullRequest (source target : Text) (number title : Option Text)
  | commit (ref : Text)
  | worktree
  | paths (kind : PathKind) (names : List Text)

namespace Scope

def typeName : Scope → Text
  | .pullRequest .. => "pr"
  | .commit _ => "commit"
  | .worktree => "local"
  | .paths k _ => k.name

def shownLength : Nat := 12

/-- One line about what is reviewed; one path is shown for a file or a folder, which is outside the list when
there is none. -/
def describe : Scope → Except Failure Text
  | .pullRequest source target number _ =>
    let label : Text := match number.filter (!·.isEmpty) with
      | some n => .concat ["PR #", n]
      | none => "PR"
    .ok (.concat [label, ": ", source, " → ", target])
  | .commit ref => .ok (.concat ["Commit ", ref.take shownLength])
  | .worktree => .ok "Local changes"
  | .paths .files names => .ok (.concat ["Files: ", Text.joinWith ", " names])
  | .paths _ [] => .error .outOfRange
  | .paths .file (n :: _) => .ok (.concat ["File: ", n])
  | .paths .folder (n :: _) => .ok (.concat ["Folder: ", n])

end Scope

end RuleReview
