import RuleReview.FileTree.Path
import RuleReview.Git.Remote
import RuleReview.Git.Session

/-! # Facts about a repository

Each is absent when git cannot tell.
-/
namespace RuleReview.Git

def workTree? : Session (Option Path) := do
  try
    return (← Session.trimmed? ["rev-parse", "--show-toplevel"]).map Path.ofText
  catch
    | .repository _ => return none
    | e => throw e

def headCommit : Session (Option Text) := Session.trimmed? ["rev-parse", "HEAD"]

/-- The name of the branch, or none on a detached head. -/
def branch : Session (Option Text) := do
  let name ← Session.trimmed? ["rev-parse", "--abbrev-ref", "HEAD"]
  return name.filter (· != "HEAD".toList)

def remoteUrl (remote : Text) : Session (Option Text) := Session.trimmed? ["remote", "get-url", remote]

def commitMessage (ref : Text) : Session (Option Text) := Session.trimmed? ["log", "-1", "--format=%B", ref]

def author (ref : Text) : Session (Option Text × Option Text) := do
  let name ← Session.trimmed? ["log", "-1", "--format=%an", ref]
  let address ← Session.trimmed? ["log", "-1", "--format=%ae", ref]
  return (name, address)

structure Facts where
  repository : Option Text
  branch : Option Text
  commit : Option Text
  message : Option Text
  authorName : Option Text
  authorAddress : Option Text

def facts (remote : Text) (known : Option Text) (ref : Text) : Session Facts := do
  let (authorName, authorAddress) ← author ref
  let repository := (← remoteUrl remote).bind Remote.normalize
  let branch ← match known.filter (!·.isEmpty) with
    | some name => pure (some name)
    | none => branch
  let commit ← Session.trimmed? ["rev-parse", ref]
  let message ← commitMessage ref
  return { repository, branch, commit, message, authorName, authorAddress }

end RuleReview.Git
