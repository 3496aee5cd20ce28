import RuleReview.CommandLine.Progress
import RuleReview.FileTree.Real
import RuleReview.Prompt
import RuleReview.Rule.Folder

/-! # Starting a folder of rules

An example is written where there is none; what is there already is left as it is.
-/
namespace RuleReview.CommandLine

def exampleRule : Template :=
  [Template.lines [
    "---",
    "id: example-threadline",
    "version: 1.0.0",
    "patterns:",
    "  - \"**/*.py\"",
    "context_files: []",
    "---",
    "",
    "# Example threadline",
    "",
    "Describe one coding convention your team wants every change to follow.",
    "",
    "This threadline applies to every Python file (`**/*.py`). Change `patterns`",
    "to the globs your rule should cover.",
    "",
    "## Guidelines",
    "",
    "- State the rule in one sentence",
    "- Add the cases it covers and the ones it does not",
    "- Keep it focused: one threadline, one concern",
    "",
    "## Examples",
    "",
    "```python",
    "# Follows the rule",
    "```",
    "",
    "```python",
    "# Breaks the rule",
    "```",
    ""]]

def exampleName : Text := "example.md"

def nextSteps : List Text :=
  ["\n[bold]Next steps:[/bold]",
   "  1. Edit threadlines/example.md with your convention",
   "  2. Rename it to something descriptive (e.g., error-handling.md)",
   "  3. Put THREADLINE_API_KEY and THREADLINE_ACCOUNT in .env.local (keep it out of git)",
   "     or run checks with --offline",
   "  4. Run: threadlines check"]

def changeFiles (path : Path) (change : FileTree → Except FileProblem FileTree) : Run Unit := do
  let tree ← Run.ofExcept ((change (← get).tree).mapError (.noFile path.toText))
  modify fun p => { p with tree }

def isThere (path : Path) : Run Bool := do
  Run.ofExcept (((← get).tree.hasEntry path).mapError (.noFile path.toText))

def init (w : World) (directory : Text) : Run Unit := do
  let top ← Run.ofExcept (w.tree.resolve (w.here.join (.ofText directory)))
  let folder := top.child Rule.folderName
  let file := folder.child exampleName
  if !(← isThere folder) then
    changeFiles folder (·.makeDirectory folder)
    Run.say w (.concat ["[green]✓ Created ", folder.toText, "[/green]"])
  if ← isThere file then
    Run.say w (.concat ["[yellow]⚠️  ", file.toText, " already exists[/yellow]"])
    Run.say w "[dim]   Edit it, or delete it and run init again.[/dim]"
  else
    changeFiles file (·.write file (Text.encode exampleRule.source))
    Run.say w (.concat ["[green]✓ Created ", file.toText, "[/green]"])
    nextSteps.forM (Run.say w)

def sayFileFailure (w : World) : Failure → Run Unit
  | .noFile path problem =>
    if problem = .zeroByte then pure ()
    else Run.say w (.concat ["\n[bold red]❌ Error:[/bold red] ", w.tools.terminal.escape (problem.message path)])
  | _ => pure ()

def runInit (w : World) (directory : Text) : Nat × Progress :=
  match (init w directory).run w.start with
  | (.ok _, p) => (0, p)
  | (.error f, p) => (1, ((sayFileFailure w f).run p).2)

end RuleReview.CommandLine
