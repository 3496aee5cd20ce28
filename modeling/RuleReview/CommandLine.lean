import RuleReview.CommandLine.Check
import RuleReview.CommandLine.Init

/-! # The command line

A command and its arguments. Arguments that make no sense are refused before anything is done.
-/
namespace RuleReview.CommandLine

inductive Action where
  | check (options : CheckOptions)
  | init (path : Text)
  | version
  | help
  | stop

def commandNames : List Text := ["check", "init"]

def globalFlags : List Flag := [{ name := "--version" }, { name := "--help" }]

def initFlags : List Flag := [{ name := "--help" }]

/-- The one directory that a command takes, which must be there, or the current one. -/
def readPath (w : World) (operands : List Text) (act : Text → Action) : Except UsageProblem Action :=
  let path := operands.head?.getD ['.']
  if path.isEmpty then .error (.folderMissing path)
  else match w.tree.findText w.here path with
    | .error .zeroByte => .ok .stop
    | .error _ => .error (.folderMissing path)
    | .ok (.dir _) => if operands.length > 1 then .error (.operands operands.tail) else .ok (act path)
    | .ok _ => .error (.folderIsFile path)

def checkFormat (given : List Given) : Except UsageProblem Unit :=
  match (given.filter (·.name = "--format".toList)).getLast? with
  | some g =>
    if CheckOptions.formats.contains g.value then .ok ()
    else .error (.badChoice g.name g.value CheckOptions.formats)
  | none => .ok ()

def readGlobal (args : List Text) : Except UsageProblem (Option Action × List Text) :=
  (arguments globalFlags false args).map fun (given, rest) =>
    (given.head?.map fun g => if g.name = "--version".toList then .version else .help, rest)

/-- Reads a command. A name that is none may yet be an option, for which `--` came too early. -/
def readCommand (w : World) (name : Text) (rest : List Text) : Except UsageProblem Action := do
  if name = "check".toList then
    let (given, operands) ← arguments CheckOptions.flags true rest
    if isGiven given "--help" then return .help
    checkFormat given
    readPath w operands fun path => .check (.ofGiven given path)
  else if name = "init".toList then
    let (given, operands) ← arguments initFlags true rest
    if isGiven given "--help" then return .help
    readPath w operands .init
  else match ← readGlobal (name :: rest) with
    | (some action, _) => return action
    | (none, _) => .error (.unknownCommand name (closest commandNames name))

def readAction (w : World) (args : List Text) : Except UsageProblem Action := do
  if args.isEmpty then return .help
  match ← readGlobal args with
  | (some action, _) => return action
  | (none, []) => .error .noCommand
  | (none, name :: rest) => readCommand w name rest

def usage : Text :=
  Text.joinLines (List.map String.toList [
    "Usage: threadlines [OPTIONS] COMMAND [ARGS]...",
    "",
    "Commands:",
    "  check  Check changes against every threadline.",
    "  init   Create threadlines/example.md as a starting point.",
    ""])

def run (w : World) (args : List Text) : Nat × Progress :=
  let start := w.start
  match readAction w args with
  | .ok (.check o) => runCheck w o
  | .ok (.init path) => runInit w path
  | .ok .stop => (1, start)
  | .ok .version => (0, { start with out := .concat ["threadlines, version ", version, "\n"] })
  | .ok .help => if args.isEmpty then (2, { start with err := usage }) else (0, { start with out := usage })
  | .error p => (2, { start with err := .concat [usage, "\nError: ", p.message, "\n"] })

end RuleReview.CommandLine
