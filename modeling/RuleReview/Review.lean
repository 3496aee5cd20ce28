import RuleReview.Change
import RuleReview.Citation
import RuleReview.Diff.Restrict
import RuleReview.Diff.Slim
import RuleReview.Diff.Writer
import RuleReview.FileTree.Basic
import RuleReview.Glob
import RuleReview.Log
import RuleReview.Prompt
import RuleReview.Report

/-! # A review

Each rule is sent its own part of a change: the sections of the files it applies to, narrowed to their
changes. The answers are independent of each other: whatever becomes of one request is the result of its rule
and no other's.
-/
namespace RuleReview

inductive Late where
  | cancelled
  | answered
  | failed (failure : Failure)

inductive Answer where
  | verdict (v : Verdict)
  | failed (failure : Failure)
  | late (l : Late)

structure Provider where
  name : Option Glyphs
  answer : Request → Answer

/-- The part of a change that is a rule's: the paths it applies to, and the text sent with the paths in it. -/
structure Share where
  paths : List Text
  diff : Text
  files : List Text

namespace Review

def share (rule : Rule) (c : Change) (parsed : Diff) (n : Int) : Except Failure Share := do
  let paths ← Glob.select c.files rule.patterns
  if paths.isEmpty || !c.hasContent then return ⟨paths, [], []⟩
  let slimmed ← (parsed.restrict paths).narrow n
  return ⟨paths, slimmed.serialize, slimmed.changedFiles⟩

def failureText (f : Failure) : Text := .concat [f.label, ": ", f.message]

def kindOf : Failure → Text
  | .timeout _ => timeoutKind
  | .foreign e => e.kind.getD "provider".toList
  | _ => "provider"

def readContext (t : FileTree) (root : Path) (rule : Rule) :
    List Text → Except Failure (List (Text × Text)) × List LogLine
  | [] => (.ok [], [])
  | name :: names =>
    let path := root.join (.ofText name)
    let (found, logs) := readContext t root rule names
    match t.readLossy path with
    | .ok content => (found.map fun ms => (name, content) :: ms.filter (·.1 != name), logs)
    | .error .zeroByte => (.error (.noFile path.toText .zeroByte), [])
    | .error p =>
      (found, ⟨.warning, .concat ["Context file ", name, " for ", rule.id, " unreadable: ",
        p.message path.toText]⟩ :: logs)

def keptCitations (sent : List Text) (v : Verdict) : List Text :=
  (v.citations.filterMap (Citation.resolveGlyphs? sent)).eraseDups

def citationLogs (rule : Rule) (sent : List Text) (v : Verdict) : List LogLine :=
  let discarded := v.citations.filter fun c => (Citation.resolveGlyphs? sent c).isNone
  let lines := discarded.map fun c => (⟨.warning, .concat ["Discarding file reference ", c.quoted, " from ",
    rule.id, ": not among the files sent"]⟩ : LogLine)
  if v.standing = .attention && (keptCitations sent v).isEmpty then
    lines ++ [⟨.error, .concat [rule.id, " returned attention without any valid file references"]⟩]
  else lines

def noMatch : Text := "No changed files match this threadline's patterns."

def noLines : Text := "Matching files changed, but without any line changes to review."

structure Outcome where
  finding : Finding
  request : Option Request := none
  logs : List LogLine := []

def faulty (r : Request) (timing : Timing) (kind message : Text) : Finding :=
  { rule := r.rule.id
    status := .error
    reasoning := .ofText (.concat ["Error: ", message])
    files := r.files
    diff := r.diff
    timing := some timing
    fault := some ⟨kind, message⟩ }

def lateLogs (rule : Rule) : Late → List LogLine
  | .cancelled => []
  | .answered => [⟨.debug, .concat ["Discarding late result for ", rule.id]⟩]
  | .failed f => [⟨.debug, .concat ["Abandoned evaluation of ", rule.id, " failed late: ", f.message]⟩]

def settle (r : Request) (timing : Timing) (seconds : Seconds) : Answer → Finding × List LogLine
  | .verdict v =>
    ({ rule := r.rule.id
       status := .ofStanding v.standing
       reasoning := v.reasoning
       citations := keptCitations r.files v
       files := r.files
       diff := r.diff
       timing := some timing },
     citationLogs r.rule r.files v)
  | .failed f =>
    let message := failureText f
    (faulty r timing (kindOf f) message, [⟨.warning, .concat [r.rule.id, " failed: ", message]⟩])
  | .late l =>
    let message := Text.concat ["Evaluation timed out after ", seconds.toText, "s"]
    (faulty r timing timeoutKind message,
     ⟨.warning, .concat [r.rule.id, ": ", message]⟩ :: lateLogs r.rule l)

structure Setup where
  tree : FileTree
  root : Path
  window : Int
  seconds : Seconds
  provider : Provider
  timing : Rule → Timing

/-- The outcome for one rule. Reading context files takes time, so that without any the request is not made. -/
def one (s : Setup) (c : Change) (parsed : Diff) (rule : Rule) : Except Failure Outcome := do
  let sh ← share rule c parsed s.window
  let timing := s.timing rule
  let idle (reasoning : Text) (files : List Text) : Outcome :=
    ⟨{ rule := rule.id, status := .notRelevant, reasoning := .ofText reasoning, files, timing := some timing }, none, []⟩
  if sh.paths.isEmpty then return idle noMatch []
  if sh.files.isEmpty then return idle noLines sh.paths
  let (context, contextLogs) := readContext s.tree s.root rule rule.contextFiles
  let request : Request := ⟨rule, sh.diff, sh.files, context.toOption.getD []⟩
  let start : LogLine :=
    ⟨.debug, .concat ["Dispatching ", rule.id, " for ", Text.ofNat sh.files.length, " file(s)"]⟩
  if s.seconds.isOver && !rule.contextFiles.isEmpty then
    let (finding, logs) := settle request timing s.seconds (.late .cancelled)
    return ⟨finding, none, start :: logs⟩
  match context with
  | .error f =>
    let (finding, logs) := settle request timing s.seconds (.failed f)
    return ⟨finding, none, start :: contextLogs ++ logs⟩
  | .ok _ =>
    let (finding, logs) := settle request timing s.seconds (s.provider.answer request)
    return ⟨finding, some request, start :: contextLogs ++ logs⟩

structure Result where
  report : Report
  requests : List Request
  logs : List LogLine

/-- Reviews a change by rules; `milliseconds` is how long it took. What ran out of time is logged after what
was answered. -/
def run (s : Setup) (rules : List Rule) (c : Change) (milliseconds : Int) : Except Failure Result := do
  let parsed ← c.parsed
  let outcomes ← rules.mapM (one s c parsed)
  let report : Report := ⟨outcomes.map (·.finding), milliseconds, s.provider.name⟩
  let closing : List LogLine :=
    if report.timedOut = 0 ∧ report.errors = 0 then []
    else [⟨.warning, .concat ["Completed: ", Text.ofNat report.completed, ", Timed out: ",
      Text.ofNat report.timedOut, ", Errors: ", Text.ofInt report.errors]⟩]
  let (late, answered) := outcomes.partition (·.finding.isTimeout)
  return ⟨report, outcomes.filterMap (·.request), (answered ++ late).flatMap (·.logs) ++ closing⟩

/-- The requests that are under way when the review fails because some rule has no share: those of the other
rules that need no file read before. -/
def underWay (s : Setup) (rules : List Rule) (c : Change) : List Request :=
  match c.parsed with
  | .error _ => []
  | .ok parsed => rules.filterMap fun rule =>
    match one s c parsed rule with
    | .ok o => o.request.filter (·.rule.contextFiles.isEmpty)
    | .error _ => none

end Review

end RuleReview
