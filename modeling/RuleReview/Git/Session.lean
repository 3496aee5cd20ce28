import RuleReview.Failure
import RuleReview.Log
import RuleReview.Text.Lines
import RuleReview.Text.Utf8

/-! # Talking to git

Git is any behaviour: what it answers to a command may depend on all commands before. A session runs
commands one after another and keeps their trace, also when it fails.
-/
namespace RuleReview

inductive Reply where
  | exited (code : Int) (out err : List UInt8)
  | missing
  | interrupted
  /-- The command could not be started for a reason of its own. -/
  | raised (error : ForeignError)

abbrev Command := List Text

abbrev Git := List Command → Command → Reply

structure Trace where
  calls : List Command := []
  logs : List LogLine := []

abbrev Session (α : Type) := ReaderT Git (ExceptT Failure (StateM Trace)) α

structure Outcome where
  argv : List Text
  code : Int
  out : Text
  err : Text

def Outcome.ok (r : Outcome) : Bool := r.code == 0

namespace Session

def ofExcept (e : Except Failure α) : Session α :=
  match e with
  | .ok a => pure a
  | .error f => throw f

def log (level : Level) (message : Text) : Session Unit :=
  modify fun t => { t with logs := t.logs ++ [⟨level, message⟩] }

/-- Non-ASCII paths are to be printed as they are. -/
def fixedArguments : List Text := ["git", "-c", "core.quotepath=off"]

def decodeOutput (bs : List UInt8) : Text := Text.normalizeBreaks (Text.decodeLossy bs)

def ask (args : Command) : Session Outcome := do
  let git ← read
  let t ← get
  set { t with calls := t.calls ++ [args] }
  let argv := fixedArguments ++ args
  match git t.calls args with
  | .missing => throw (.repository (.gitMissing (Text.joinWith " " argv)))
  | .interrupted => throw .interrupted
  | .raised e => throw (.foreign e)
  | .exited code out err => return ⟨argv, code, decodeOutput out, decodeOutput err⟩

def run (args : Command) : Session Outcome := do
  let r ← ask args
  if r.ok then return r else throw (.command r.argv r.code r.err)

def output (args : Command) : Session Text := do return (← run args).out

def lines (args : Command) : Session (List Text) := do
  return (← output args).boundedLines.filter fun l => !l.isBlankText

def trimmed? (args : Command) : Session (Option Text) := do
  let r ← ask args
  if !r.ok then return none
  let value := r.out.trim
  return if value.isEmpty then none else some value

/-- Runs a session against git on top of what was done before. -/
def resume (s : Session α) (git : Git) (before : Trace) : Except Failure α × Trace :=
  StateT.run (ExceptT.run (ReaderT.run s git)) before

def start (s : Session α) (git : Git) : Except Failure α × Trace := resume s git {}

end Session

end RuleReview
