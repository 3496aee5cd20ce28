import RuleReview.FileTree.Basic
import RuleReview.Git.Session
import RuleReview.Model
import RuleReview.Publish
import RuleReview.Terminal

/-! # A command at work

A command sees the world as a value, and its progress tells what it has shown, asked and sent. A command that
fails leaves its progress as it is.
-/
namespace RuleReview.CommandLine

/-- What a command makes use of: a terminal, what a file of variables adds to an environment and what is said about
it, values for fields, and a language of headers. -/
structure Tools where
  terminal : Terminal
  loadVariables : FileTree → Path → Environment → Except Failure Environment × Text
  coercion : Coercion
  header : HeaderLanguage

structure World where
  tools : Tools
  tree : FileTree
  here : Path
  environment : Environment
  git : Git
  model : Text → Conversation
  service : Publish.Post → Publish.Reply
  timing : Rule → Timing
  milliseconds : Int

structure Progress where
  tree : FileTree
  out : Text := []
  err : Text := []
  stage : Text := "starting up".toList
  calls : List Command := []
  requests : List Request := []
  model : Glyphs := []
  posts : List Publish.Post := []

def World.start (w : World) : Progress := { tree := w.tree }

abbrev Run := ExceptT Failure (StateM Progress)

namespace Run

def enter (stage : Text) : Run Unit := modify fun p => { p with stage }

def ofExcept (e : Except Failure α) : Run α := fun p => (e, p)

variable (w : World)

def render (markup : Text) : Run Text := ofExcept ((w.tools.terminal.render markup).mapError .foreign)

/-- Shows markup for what is to be a text; if it is none, the output cannot be written. -/
def sayIf (isText : Bool) (markup : Text) : Run Unit := do
  let shown ← render w markup
  if !isText then throw .unwritable
  modify fun p => { p with out := p.out ++ shown }

def say (markup : Text) : Run Unit := sayIf w true markup

def mention (markup : Text) : Run Unit := do
  let shown ← render w markup
  modify fun p => { p with err := p.err ++ shown }

def report (debug : Bool) (logs : List LogLine) : Run Unit :=
  modify fun p =>
    { p with err := p.err ++ (logs.filter fun l => debug || l.level != .debug).flatMap w.tools.terminal.log }

def ask (debug : Bool) (s : Session α) : Run α := do
  let (result, trace) := s.resume w.git { calls := (← get).calls }
  modify fun p => { p with calls := trace.calls }
  report w debug trace.logs
  ofExcept result

end Run

end RuleReview.CommandLine
