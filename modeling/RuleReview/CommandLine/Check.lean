import RuleReview.Change.Source
import RuleReview.CommandLine.Arguments
import RuleReview.CommandLine.Progress
import RuleReview.Json.Shown
import RuleReview.Pipeline
import RuleReview.Review
import RuleReview.Rule.Folder
import RuleReview.Settings.Load

/-! # Checking a change

The change comes from the paths or the commit that are named, else from the pipeline. The report is shown
before it is uploaded.
-/
namespace RuleReview.CommandLine

def version : Text := "0.1.0"

structure CheckOptions where
  path : Text := ['.']
  commit : Option Text := none
  file : Option Text := none
  folder : Option Text := none
  files : List Text := []
  full : Bool := false
  json : Bool := false
  model : Option Text := none
  offline : Bool := false
  debug : Bool := false

namespace CheckOptions

def flags : List Flag :=
  [{ name := "--commit", valued := true }, { name := "--file", valued := true },
   { name := "--folder", valued := true }, { name := "--files", valued := true }, { name := "--full" },
   { name := "--format", valued := true }, { name := "--model", letter := some 'm', valued := true },
   { name := "--offline" }, { name := "--debug" }, { name := "--help" }]

def formats : List Text := ["text", "json"]

def ofGiven (given : List Given) (path : Text) : CheckOptions :=
  { path
    commit := lastValue? given "--commit"
    file := lastValue? given "--file"
    folder := lastValue? given "--folder"
    files := (given.filter (·.name = "--files".toList)).map (·.value)
    full := isGiven given "--full"
    json := lastValue? given "--format" = some "json".toList
    model := lastValue? given "--model"
    offline := isGiven given "--offline"
    debug := isGiven given "--debug" }

def paths? (o : CheckOptions) : Option Scope :=
  match o.file, o.folder, o.files with
  | some f, _, _ => some (.paths .file [f])
  | none, some f, _ => some (.paths .folder [f])
  | none, none, [] => none
  | none, none, fs => some (.paths .files fs)

def scopes (o : CheckOptions) : Nat :=
  [o.commit.isSome, o.file.isSome, o.folder.isSome, !o.files.isEmpty].countP id

end CheckOptions

def environmentFile : Text := ".env.local"

def readEnvironment (w : World) (root : Path) : Run Environment := do
  let (environment, said) := w.tools.loadVariables w.tree (root.child environmentFile) w.environment
  modify fun p => { p with err := p.err ++ said }
  Run.ofExcept environment

def look : Status → Text × Text
  | .compliant => ("✅", "green")
  | .attention => ("⚠️ ", "yellow")
  | .notRelevant => ("➖", "dim")
  | .error => ("❌", "red")

def sayFinding (w : World) (f : Finding) : Run Unit := do
  let escape := w.tools.terminal.escape
  let (icon, style) := look f.status
  Run.say w (.concat ["\n", icon, " [bold ", style, "]", escape f.rule, "[/bold ", style, "] [", style,
    "]", f.status.name, "[/", style, "]"])
  if !f.reasoning.isEmpty then
    Run.sayIf w f.reasoning.text?.isSome (.concat ["   ", escape f.reasoning.escaped])
  if !f.citations.isEmpty then
    Run.say w (.concat ["   Files: ", escape (Text.joinWith ", " f.citations)])

def totals (r : Report) : Text :=
  let parts : List Text :=
    [.concat [Text.ofNat (r.count .compliant), " compliant"],
     .concat [Text.ofNat (r.count .attention), " attention"],
     .concat [Text.ofNat (r.count .notRelevant), " not relevant"]] ++
    (if r.timedOut = 0 then [] else [.concat [Text.ofNat r.timedOut, " timed out"]]) ++
    if r.errors = 0 then [] else [.concat [Text.ofInt r.errors, " errors"]]
  .concat [Text.ofNat r.total, " threadline(s): ", Text.joinWith ", " parts]

/-- Shows a report; results that are no failures only on demand. -/
def sayReport (w : World) (r : Report) (full : Bool) : Run Unit := do
  (r.findings.filter fun f => full || f.isFailure).forM (sayFinding w)
  Run.say w (.concat ["\n", totals r])
  if !r.hasFailures then Run.say w "[bold green]✅ All threadlines passed[/bold green]"
  else if !full then Run.say w "[dim]Run with --full to see every result[/dim]"

def reportJson (r : Report) (scope : Scope) (c : Change) : Json :=
  .record (r.members ++ [("context", .str scope.typeName), ("diff", .record [("strategy", .str c.strategy.name),
    ("base", .optText c.base), ("head", .optText c.head), ("changed_files", .texts c.files),
    ("warnings", .texts c.warnings)])])

def uploadSeconds : Nat := 60

def factsRef : Scope → Text
  | .commit ref => ref
  | _ => "HEAD"

structure Reviewed where
  settings : Settings
  credentials? : Option Credentials
  environment : Environment
  pipeline : Pipeline
  scope : Scope
  rules : List Rule
  change : Change
  report : Report

namespace Reviewed

def facts (r : Reviewed) : Session Git.Facts :=
  Git.facts r.settings.fetching.remote (r.pipeline.branch r.environment) (factsRef r.scope)

def parcel (r : Reviewed) (credentials : Credentials) (facts : Git.Facts) : Publish.Parcel :=
  ⟨r.rules, r.change, r.report, credentials, facts, r.scope.typeName, r.pipeline.label, version,
    r.pipeline.title r.environment⟩

def code (r : Reviewed) : Nat := if r.report.hasFailures then 1 else 0

end Reviewed

/-- Shows markup about an upload, beside the output when that is data. -/
def tellUpload (w : World) (o : CheckOptions) (isText : Bool) (markup : Text) : Run Unit :=
  if o.json then Run.mention w markup else Run.sayIf w isText markup

def sayReceipt (w : World) (o : CheckOptions) : Except Failure Publish.Receipt → Run Unit
  | .error (.sync p) =>
    tellUpload w o p.isPlain
      (.concat ["[yellow]⚠️  Could not sync results:[/yellow] ", w.tools.terminal.escape p.message])
  | .error f => throw f
  | .ok receipt =>
    if Publish.isYes receipt.check then
      let check := receipt.check.shown
      tellUpload w o check.text?.isSome (.concat ["[dim]Results synced (check ", check.escaped, ")[/dim]"])
    else pure ()

def upload (w : World) (o : CheckOptions) (r : Reviewed) (credentials : Credentials) : Run Unit := do
  let facts ← Run.ask w o.debug r.facts
  let (post, log) ← Run.ofExcept (Publish.post r.settings.apiUrl (r.parcel credentials facts).toJson)
  modify fun p => { p with posts := p.posts ++ [post] }
  Run.report w o.debug [log]
  sayReceipt w o (Publish.receive post.url (Text.ofNat uploadSeconds) (w.service post))

def providerOf (w : World) (s : Settings) : Provider where
  name := some s.model
  answer r :=
    match (w.model r.rule.id).verdict w.tools.coercion r.rule.id (.exact s.requestSeconds) with
    | .ok v => .verdict v
    | .error f => .failed f

def chooseScope (o : CheckOptions) (env : Environment) (pipeline : Pipeline) : Except Failure Scope :=
  match o.paths?, o.commit with
  | some scope, _ => .ok scope
  | none, some ref => .ok (.commit ref)
  | none, none => pipeline.scope env

/-- Reviews a change. When that fails as a whole, the requests under way have been sent, and of their failures
only those to open a conversation are known by then. -/
def evaluate (w : World) (o : CheckOptions) (s : Settings) (root : Path) (rules : List Rule) (change : Change) :
    Run Report := do
  let setup : Review.Setup :=
    ⟨w.tree, root, s.window, .exact s.taskSeconds, providerOf w s, w.timing⟩
  match Review.run setup rules change w.milliseconds with
  | .ok result =>
    modify fun p => { p with requests := result.requests, model := s.model }
    Run.report w o.debug result.logs
    return result.report
  | .error f =>
    let sent := Review.underWay setup rules change
    modify fun p => { p with requests := sent, model := s.model }
    let refused := sent.filter fun r => (w.model r.rule.id).opening.isSome
    Run.report w o.debug (refused.flatMap fun r =>
      (Review.settle r (w.timing r.rule) setup.seconds (setup.provider.answer r)).2)
    throw f

def credentialsFor (s : Settings) (env : Environment) : Except Failure (Option Credentials) :=
  if s.online then (Credentials.ofEnvironment env).map some else .ok none

def sayScope (w : World) (o : CheckOptions) (scope : Scope) (rules : List Rule) (s : Settings) : Run Unit :=
  if o.json then pure ()
  else do
    let described ← Run.ofExcept scope.describe
    Run.say w (.concat ["🧵 Threadlines v", version, ": ", w.tools.terminal.escape described])
    Run.sayIf w s.model.text?.isSome
      (.concat ["[dim]", Text.ofNat rules.length, " threadline(s), model ", s.model.escaped, "[/dim]"])

def sayFiles (w : World) (o : CheckOptions) (change : Change) : Run Unit :=
  if o.json then pure ()
  else Run.say w (.concat ["[dim]", Text.ofNat change.files.length, " changed file(s)[/dim]"])

/-- Shows a report; one that is broken cannot be written. -/
def showReport (w : World) (o : CheckOptions) (report : Report) (scope : Scope) (change : Change) : Run Unit := do
  if !o.json then sayReport w report o.full
  else
    if !report.isPlain then throw .unwritable
    modify fun p => { p with out := p.out ++ w.tools.terminal.data (reportJson report scope change) }

def wholeRules (files : List RuleFile) : Except Failure (List Rule) :=
  (files.mapM RuleFile.rule?).elim (.error .unwritable) .ok

def withRemote (s : Settings) : Except Failure Settings := if s.remote.text?.isSome then .ok s else .error .unwritable

def examine (w : World) (o : CheckOptions) : Run (Option Reviewed) := do
  if o.scopes > 1 then
    Run.say w "[bold red]❌ Choose at most one of --commit, --file, --folder, or --files[/bold red]"
    return none
  let start ← Run.ofExcept (w.tree.resolve (w.here.join (.ofText o.path)))
  Run.enter "locating repository"
  let top ← Run.ask w o.debug Git.workTree?
  if top.isNone && o.paths?.isNone then throw (.repository (.outside start.toText))
  let root := top.getD start
  let environment ← readEnvironment w root
  Run.enter "loading configuration"
  let wishes : Settings.Wishes := ⟨o.model, if o.offline then some "offline".toList else none⟩
  let loaded ← Run.ofExcept (Settings.load w.tools.coercion w.tree start (some root) wishes environment)
  let settings ← Run.ofExcept (withRemote loaded)
  let credentials? ← Run.ofExcept (credentialsFor settings environment)
  Run.enter "loading threadlines"
  let (found, logs) := Rule.all w.tools.header w.tree root
  Run.report w o.debug logs
  let rules ← Run.ofExcept (found.bind wholeRules)
  Run.enter "detecting review context"
  let pipeline := Pipeline.detect environment
  let scope ← Run.ofExcept (chooseScope o environment pipeline)
  sayScope w o scope rules settings
  Run.enter "computing diff"
  let change ← Run.ask w o.debug (scope.change w.tree root settings)
  if change.files.isEmpty then throw (.nothing .noFiles)
  sayFiles w o change
  Run.enter "evaluating threadlines"
  let report ← evaluate w o settings root rules change
  showReport w o report scope change
  return some { settings, credentials?, environment, pipeline, scope, rules, change, report }

def conclude (w : World) (o : CheckOptions) : Option Reviewed → Run Nat
  | none => return 1
  | some r => do
    if let some credentials := r.credentials? then
      Run.enter "syncing results"
      upload w o r credentials
    return r.code

def check (w : World) (o : CheckOptions) : Run Nat := do
  conclude w o (← examine w o)

/-- Shows why a check ended early. A failure of another kind than its own is shown with its name; what cannot
be shown ends all output. -/
def sayFailure (w : World) (stage : Text) : Failure → Run Unit
  | .unwritable => pure ()
  | .interrupted => Run.say w "\n[yellow]⚠️  Check cancelled by user[/yellow]"
  | f => do
    let what := if f.isOwn then f.message else .concat [f.label, ": ", f.message]
    Run.say w (.concat ["\n[bold red]❌ Error while ", stage, ":[/bold red] ", w.tools.terminal.escape what])
    if !f.isOwn then Run.say w "\n[dim]Run with --debug for more detail[/dim]"

def failureCode : Failure → Nat
  | .interrupted => 130
  | _ => 1

def runCheck (w : World) (o : CheckOptions) : Nat × Progress :=
  match (check w o).run w.start with
  | (.ok code, p) => (code, p)
  | (.error f, p) => (failureCode f, ((sayFailure w p.stage f).run p).2)

end RuleReview.CommandLine
