import RuleReview.Members
import RuleReview.Environment
import RuleReview.FileTree.Real
import RuleReview.Json.Reader
import RuleReview.Settings

/-! # Where settings come from

Defaults, then the nearest settings file from a directory upwards, then what the command line asks for, then
the environment: each source overrides the ones before it.
-/
namespace RuleReview.Settings

def fileName : Text := ".threadlinerc"

/-- The first settings file in a directory or one above it, up to and including the last directory to
look into. -/
def findAbove (t : FileTree) (stop : Option Path) : Nat → Path → Except Failure (Option Path)
  | 0, _ => .ok none
  | levels + 1, p => do
    let file := p.child fileName
    if ← (t.hasFile file).mapError (.noFile file.toText) then return some file
    else if stop = some p ∨ p.names = [] then return none
    else findAbove t stop levels p.parent

def findFile (t : FileTree) (start : Path) (stop : Option Path) : Except Failure (Option Path) := do
  let p ← t.resolve start
  findAbove t (← stop.mapM t.resolve) (p.names.length + 1) p

def withoutComments (s : Text) : Text :=
  Text.joinLines (s.boundedLines.filter fun l => !(Text.trimStart l).startsWith "//")

def readMembers (t : FileTree) (file : Path) : Except Failure (List (Text × Json)) :=
  match t.readText file with
  | .error p => .error (.ofFile (fun p => .configuration (.unreadable file.toText p)) file.toText p)
  | .ok (.error bad) => .error (.notText bad)
  | .ok (.ok raw) =>
    let text := withoutComments raw
    match Json.parse (if text.isEmpty then "\x7b\x7d" else text) with
    | .error p => .error (.ofJson (fun p => .configuration (.badJson file.toText p)) p)
    | .ok v => v.members?.elim (.error (.configuration (.notObject file.toText))) .ok

structure Wishes where
  model : Option Text := none
  mode : Option Text := none

def override (members : List (Text × Json)) (name : Text) (value : Option Text) : List (Text × Json) :=
  match value.filter (!·.isEmpty) with
  | some v => Members.put members name (.str v)
  | none => members

def overrideAll (members : List (Text × Json)) (w : Wishes) (env : Environment) : List (Text × Json) :=
  let members := override (override members "model" w.model) "mode" w.mode
  [("model", "THREADLINE_MODEL"), ("api_url", "THREADLINE_API_URL"), ("mode", "THREADLINE_MODE")].foldl
    (fun ms (name, var) => override ms (String.toList name) (env.raw? (String.toList var))) members

def load (c : Coercion) (t : FileTree) (start : Path) (stop : Option Path) (w : Wishes) (env : Environment) :
    Except Failure Settings := do
  let file ← findFile t start stop
  let members ← match file with
    | some f => readMembers t f
    | none => pure []
  let source := file.elim "configuration".toList Path.toText
  (check c (overrideAll members w env)).toExcept.mapError fun is => .configuration (.invalid source is)

end RuleReview.Settings
