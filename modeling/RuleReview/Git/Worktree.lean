import RuleReview.Change.Files
import RuleReview.Git.Session

/-! # Uncommitted changes

When anything is staged, the index alone is reviewed; otherwise the unstaged edits together with the
untracked files, which are shown as added.
-/
namespace RuleReview.Worktree

def diffCommand : Command := ["diff", "-M", "--no-color", "--no-ext-diff", "--src-prefix=a/", "--dst-prefix=b/"]

def stagedFiles : Session (List Text) :=
  Session.lines (diffCommand ++ ["--cached".toList, "--name-only".toList])

def unstagedFiles : Session (List Text) := Session.lines (diffCommand ++ ["--name-only".toList])

def untrackedFiles : Session (List Text) := do
  let out ← Session.output ["ls-files", "--others", "--exclude-standard", "-z"]
  return (out.splitOn '\x00').filter (!·.isEmpty)

def closeLine (s : Text) : Text := if s.isEmpty || s.endsWith "\n" then s else s ++ ['\n']

def collect (t : FileTree) (root : Path) (contextLines : Nat) : Session Change := do
  let window := Text.concat ["-U", Text.ofNat contextLines]
  let staged ← stagedFiles
  if !staged.isEmpty then
    Session.log .info (.concat ["Reviewing ", Text.ofNat staged.length, " staged file(s)"])
    let text ← Session.output (diffCommand ++ ["--cached".toList, window])
    return ← Session.ofExcept (Change.build text staged .staged "HEAD".toList "index".toList [])
  let unstaged ← unstagedFiles
  let untracked ← untrackedFiles
  if unstaged.isEmpty && untracked.isEmpty then throw (.nothing .cleanTree)
  Session.log .info (.concat ["Reviewing ", Text.ofNat unstaged.length, " unstaged and ",
    Text.ofNat untracked.length, " untracked file(s)"])
  let text ← if unstaged.isEmpty then pure [] else Session.output (diffCommand ++ [window])
  let (added, shown) ← Session.ofExcept (Change.ofFiles t root (untracked.map fun n => root.join (.ofText n)))
  Session.ofExcept
    (Change.build (closeLine text ++ added) (unstaged ++ shown) .unstaged "index".toList "worktree".toList [])

end RuleReview.Worktree
