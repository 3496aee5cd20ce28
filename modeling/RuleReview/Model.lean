import RuleReview.Prompt
import RuleReview.Verdict

/-! # Asking a model

A conversation is whatever happens when the model is asked. The verdict is read from all that the model says
up to its closing message. Every way in which a conversation can go wrong is a failure of the provider; only
running out of time is told apart.
-/
namespace RuleReview

inductive Event where
  | said (text : Text)
  /-- A message without text for us. -/
  | aside
  | closed (failed : Bool) (result : Option Text) (kind : Text)
  | broke (failure : Failure)
  | silence

structure Conversation where
  opening : Option Failure := none
  asking : Option Failure := none
  events : List Event

namespace Conversation

/-- The failure of a provider: one of another program is told with its name. -/
def asProvider : Failure → Failure
  | .foreign e => .provider (.foreign e)
  | f => f

def listen (timeout : Failure) : List Event → Except Failure Text
  | [] => .ok []
  | .said text :: es => (listen timeout es).map (text ++ ·)
  | .aside :: es => listen timeout es
  | .closed false _ _ :: _ => .ok []
  | .closed true result kind :: _ =>
    .error (.provider (.requestFailed ((result.filter (!·.isEmpty)).getD kind)))
  | .broke f :: _ => .error (asProvider f)
  | .silence :: _ => .error timeout

/-- The answer to a question about a rule. Without any time nothing is asked. -/
def answer (c : Conversation) (rule : Text) (seconds : Seconds) : Except Failure Text :=
  let timeout := Failure.timeout (.exceeded rule seconds)
  match c.opening, c.asking with
  | some f, _ => .error (asProvider f)
  | none, asking =>
    if seconds.isOver then .error timeout
    else match asking with
      | some f => .error (asProvider f)
      | none => listen timeout c.events

def verdict (c : Conversation) (coercion : Coercion) (rule : Text) (seconds : Seconds) : Except Failure Verdict := do
  let text ← c.answer rule seconds
  if text.isBlankText then .error (.provider (.emptyResponse rule))
  Verdict.ofAnswer coercion text

def prompts (c : Conversation) (seconds : Seconds) (r : Request) : List Text :=
  if c.opening.isSome || seconds.isOver then [] else [r.prompt]

end Conversation

end RuleReview
