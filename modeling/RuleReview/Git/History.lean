import RuleReview.Change
import RuleReview.Git.Ref
import RuleReview.Git.Session

/-! # Changes in history

A clone may lack commits. A commit or branch that is needed is fetched when a probe reports it missing, and
only that. A commit is compared with its first parent, a branch with its merge base with the target.
-/
namespace RuleReview

structure Fetching where
  remote : Text := "origin".toList
  contextLines : Nat := 200
  depth : Nat := 50

namespace History

/-- A diff of two trees in a format that no configuration of the user can change. -/
def treeDiff : Command :=
  ["diff-tree", "-r", "-M", "--no-color", "--no-ext-diff", "--src-prefix=a/", "--dst-prefix=b/"]

def commitOf (ref : Text) : Text := .concat [ref, "^\x7bcommit\x7d"]

def hasCommit (sha : Text) : Session Bool := do return (← Session.ask ["cat-file", "-e", commitOf sha]).ok

def fetchDetail (r : Outcome) : Text :=
  if r.err.trim.isEmpty then .concat ["git fetch exited ", Text.ofInt r.code] else r.err.trim

/-- Makes sure that a commit is there, fetching it alone if a probe reports it missing. -/
def ensureCommit (f : Fetching) (sha : Text) : Session Unit := do
  if ← hasCommit sha then return ()
  Session.log .info (.concat ["Commit ", sha, " is not available locally; fetching it from ", f.remote])
  let r ← Session.ask ["fetch", "--no-tags", "--depth=1", f.remote, sha]
  if !r.ok then throw (.fetch sha (fetchDetail r))
  if !(← hasCommit sha) then throw (.fetch sha "object still missing after fetch")

def tipOf (ref : Text) : Session Text := do
  return (← Session.output ["rev-parse", "--verify", commitOf ref]).trim

/-- The full id of a ref; one that looks like an id is fetched when it is missing. -/
def resolveCommit (f : Fetching) (ref : Text) : Session Text := do
  let _ ← Session.ofExcept (Ref.validate ref)
  if Ref.isSha ref then
    if !(← hasCommit ref) then ensureCommit f ref
  tipOf ref

def firstParent : List Text → Except Failure (Option Text)
  | [] => .ok none
  | l :: ls =>
    if l.isEmpty then .ok none
    else if l.startsWith "parent " then
      match l.words with
      | _ :: parent :: _ => .ok (some parent)
      | _ => .error .outOfRange
    else firstParent ls

def parentOf (f : Fetching) (sha : Text) : Session Text := do
  ensureCommit f sha
  let raw ← Session.output ["cat-file", "-p", sha]
  match ← Session.ofExcept (firstParent raw.boundedLines) with
  | some parent => return parent
  | none => throw (.rootCommit sha)

def compare (f : Fetching) (base head : Text) : Session (Text × List Text) := do
  let text ← Session.output
    (treeDiff ++ ["-p".toList, Text.concat ["-U", Text.ofNat f.contextLines], base, head])
  let names ← Session.lines (treeDiff ++ ["--name-only".toList, base, head])
  return (text, names)

def commitChange (f : Fetching) (ref : Text) : Session Change := do
  let sha ← resolveCommit f ref
  let parent ← parentOf f sha
  ensureCommit f parent
  let (text, names) ← compare f parent sha
  Session.ofExcept (Change.build text names .commit parent sha [])

def isShallow : Session Bool := do
  let r ← Session.ask ["rev-parse", "--is-shallow-repository"]
  return r.ok && r.out.trim == "true".toList

def trackingRef (f : Fetching) (branch : Text) : Text := .concat ["refs/remotes/", f.remote, "/", branch]

/-- Fetches a branch to its tracking ref, to a limited depth only where the clone is shallow already. -/
def ensureBranch (f : Fetching) (branch : Text) : Session Text := do
  let _ ← Session.ofExcept (Ref.validate branch)
  let tracking := trackingRef f branch
  let depth := if ← isShallow then [Text.concat ["--depth=", Text.ofNat f.depth]] else []
  Session.log .info (.concat ["Fetching ", f.remote, "/", branch])
  let r ← Session.ask
    (["fetch".toList, "--no-tags".toList] ++ depth ++
      [f.remote, Text.concat ["+refs/heads/", branch, ":", tracking]])
  if !r.ok then throw (.fetch (.concat [f.remote, "/", branch]) (fetchDetail r))
  return tracking

/-- The common ancestor of two commits, or none when the history that is there has none. -/
def mergeBase (left right : Text) : Session (Option Text) := do
  let r ← Session.ask ["merge-base", left, right]
  let found := r.out.trim
  if r.ok then return if found.isEmpty then none else some found
  if r.code == 1 && found.isEmpty then return none
  throw (.command r.argv r.code r.err)

def noMergeBase (f : Fetching) (target head : Text) : Text :=
  .concat ["No merge base found between ", f.remote, "/", target, " and ", head,
    "; the clone history may be too shallow. Falling back to a two-point diff, ",
    "which can include upstream changes made after the branch diverged."]

/-- A head against its merge base with a target branch; without one, against the tip of the target, with a
warning. -/
def branchChange (f : Fetching) (target head : Text) : Session Change := do
  let tracking ← ensureBranch f target
  let headSha ← resolveCommit f head
  let targetSha ← tipOf tracking
  match ← mergeBase targetSha headSha with
  | some base =>
    let (text, names) ← compare f base headSha
    Session.ofExcept (Change.build text names .mergeBase base headSha [])
  | none =>
    let warning := noMergeBase f target head
    Session.log .warning warning
    let (text, names) ← compare f targetSha headSha
    Session.ofExcept (Change.build text names .twoPoint targetSha headSha [warning])

end History

end RuleReview
