import RuleReview.Change
import RuleReview.Credentials
import RuleReview.Git.Facts
import RuleReview.Json.Reader
import RuleReview.Log
import RuleReview.Report
import RuleReview.Rule

/-! # Publishing a report

A report is sent with the rules, the change and the facts about the repository. Whatever the service answers,
the report stays as it is.
-/
namespace RuleReview

namespace Publish

def findingJson (r : Finding) : Json :=
  let fault := r.fault.toList.map fun f =>
    ("error", Json.record [("message", .str f.message), ("type", .str f.kind)])
  .record ([("expertId", .str r.rule), ("status", .str r.status.name), ("reasoning", .ofGlyphs r.reasoning),
    ("fileReferences", .texts r.citations), ("relevantFiles", .texts r.files), ("filteredDiff", .str r.diff)]
    ++ fault)

def ruleJson (r : Rule) : Json :=
  .record [("id", .str r.id), ("version", .str r.version), ("patterns", .texts r.patterns),
    ("content", .str r.content), ("filePath", .str r.path), ("contextFiles", .texts r.contextFiles)]

def metadata (r : Report) : Json :=
  .record [("totalThreadlines", .nat r.total), ("completed", .nat r.completed), ("timedOut", .nat r.timedOut),
    ("errors", .int r.errors), ("llmModel", .ofOption .ofGlyphs r.model)]

structure Parcel where
  rules : List Rule
  change : Change
  report : Report
  credentials : Credentials
  facts : Git.Facts
  scope : Text
  environment : Text
  version : Text
  title : Option Text

def Parcel.toJson (p : Parcel) : Json :=
  .record [("threadlines", .arr (p.rules.map ruleJson)), ("diff", .str p.change.text),
    ("files", .texts p.change.files), ("results", .arr (p.report.findings.map findingJson)),
    ("metadata", metadata p.report), ("apiKey", .str p.credentials.key),
    ("account", .str p.credentials.account), ("repoName", .optText p.facts.repository),
    ("branchName", .optText p.facts.branch), ("commitSha", .optText p.facts.commit),
    ("commitMessage", .optText p.facts.message), ("commitAuthorName", .optText p.facts.authorName),
    ("commitAuthorEmail", .optText p.facts.authorAddress), ("prTitle", .optText p.title),
    ("environment", .str p.environment), ("cliVersion", .str p.version), ("reviewContext", .str p.scope)]

structure Post where
  url : Glyphs
  body : Json

inductive Reply where
  | answered (status : Nat) (body : Text)
  | timedOut
  | failed (what : Text)
  /-- The request failed before it was one. -/
  | raised (error : ForeignError)

def endpoint : Text := "/api/threadline-check-results"

def urlOf (base : Glyphs) : Glyphs := base.dropTrailing '/' ++ .ofText endpoint

def size? : Json → Option Nat
  | .arr items => some items.length
  | .obj members => some members.length
  | .brokenObj members => some members.length
  | .str s => some s.length
  | .broken s => some s.length
  | _ => none

/-- How many results a body holds; none if it does not tell. -/
def resultCount (body : Json) : Except Failure Nat :=
  match body.members? with
  | none => .error .wrongShape
  | some members =>
    match members.lookup "results".toList with
    | none => .ok 0
    | some v => (size? v).elim (.error .wrongType) .ok

def post (base : Glyphs) (body : Json) : Except Failure (Post × LogLine) := do
  let url := urlOf base
  let n ← resultCount body
  return (⟨url, body⟩, ⟨.debug, .concat ["Syncing ", Text.ofNat n, " result(s) to ", url.escaped]⟩)

def shownLength : Nat := 500

def isYes : Json → Bool
  | .null => false
  | .bool b => b
  | .int n => n != 0
  | .float x => !x.eq Binary64.zero
  | v => (size? v).any (· != 0)

def isRefusal (status : Nat) : Bool := 400 ≤ status && status < 600

structure Receipt where
  success : Bool
  check : Json

/-- Reads the reply to a request; `seconds` is how long it was waited for. -/
def receive (url : Glyphs) (seconds : Text) : Reply → Except Failure Receipt
  | .timedOut => .error (.sync (.timeout seconds))
  | .failed what => .error (.sync (.request url what))
  | .raised e => .error (.foreign e)
  | .answered status body =>
    if isRefusal status then .error (.sync (.status status (body.trim.take shownLength)))
    else match Json.parse body with
      | .error p =>
        .error (match p.fault with
          | .tooDeep _ => .limit p
          | _ => .sync (.badJson url p))
      | .ok v =>
        match v.members? with
        | none => .error .wrongShape
        | some members =>
          .ok ⟨(members.lookup "success".toList).elim true isYes, (members.lookup "checkId".toList).getD .null⟩

end Publish

end RuleReview
