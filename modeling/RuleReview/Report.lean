import RuleReview.Json.Basic
import RuleReview.Verdict

/-! # Reports

A result tells how a rule was answered, or why it was not; a report holds the results in the order of the
rules. A timeout is an error that is counted on its own.
-/
namespace RuleReview

inductive Status where
  | compliant
  | attention
  | notRelevant
  | error
  deriving DecidableEq, Repr

namespace Status

def ofStanding : Standing → Status
  | .compliant => .compliant
  | .attention => .attention
  | .notRelevant => .notRelevant

def name : Status → Text
  | .compliant => "compliant"
  | .attention => "attention"
  | .notRelevant => "not_relevant"
  | .error => "error"

def ofName (s : Text) : Except Failure Status :=
  match [Status.compliant, .attention, .notRelevant, .error].find? (·.name = s) with
  | some k => .ok k
  | none => .error (.unknownName s "TaskStatus")

end Status

structure Timing where
  started : Text
  finished : Text
  milliseconds : Int

structure Fault where
  kind : Text
  message : Text

def timeoutKind : Text := "timeout"

structure Finding where
  rule : Text
  status : Status
  reasoning : Glyphs := []
  citations : List Text := []
  files : List Text := []
  diff : Text := []
  timing : Option Timing := none
  fault : Option Fault := none

namespace Finding

def isFailure (r : Finding) : Bool := r.status = .attention || r.status = .error

def isTimeout (r : Finding) : Bool := r.fault.any (·.kind = timeoutKind)

end Finding

structure Report where
  findings : List Finding
  milliseconds : Int := 0
  model : Option Glyphs := none

namespace Report

def count (r : Report) (s : Status) : Nat := r.findings.countP (·.status = s)

def total (r : Report) : Nat := r.findings.length

def completed (r : Report) : Nat := r.findings.countP (·.status != .error)

def timedOut (r : Report) : Nat := r.findings.countP Finding.isTimeout

/-- The errors that are no timeouts; there may be fewer errors than timeouts. -/
def errors (r : Report) : Int := r.count .error - r.timedOut

def hasFailures (r : Report) : Bool := r.findings.any Finding.isFailure

end Report

/-! ## Reports as data -/

def Timing.toJson (t : Timing) : Json :=
  .record [("started_at", .str t.started), ("finished_at", .str t.finished),
    ("duration_ms", .int t.milliseconds)]

def Fault.toJson (f : Fault) : Json := .record [("kind", .str f.kind), ("message", .str f.message)]

def Finding.toJson (r : Finding) : Json :=
  .record [("threadline_id", .str r.rule), ("status", .str r.status.name), ("reasoning", .ofGlyphs r.reasoning),
    ("file_references", .texts r.citations), ("relevant_files", .texts r.files),
    ("timing", .ofOption Timing.toJson r.timing), ("error", .ofOption Fault.toJson r.fault)]

namespace Report

def summary (r : Report) : Json :=
  .record [("total", .nat r.total), ("completed", .nat r.completed), ("timed_out", .nat r.timedOut),
    ("errors", .int r.errors), ("compliant", .nat (r.count .compliant)),
    ("attention", .nat (r.count .attention)), ("not_relevant", .nat (r.count .notRelevant))]

def members (r : Report) : List (String × Json) :=
  [("results", .arr (r.findings.map Finding.toJson)), ("summary", r.summary),
   ("duration_ms", .int r.milliseconds), ("model", .ofOption .ofGlyphs r.model)]

def toJson (r : Report) : Json := .record r.members

def isPlain (r : Report) : Bool :=
  r.findings.all (fun f => f.reasoning.text?.isSome) && r.model.all fun m => m.text?.isSome

end Report

end RuleReview
