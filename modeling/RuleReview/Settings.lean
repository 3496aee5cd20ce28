import RuleReview.Coercion
import RuleReview.Decimal.Shortest
import RuleReview.Failure

/-! # Settings

Every setting has a default, and what a member may give for it is up to a coercion. Settings are valid only as
a whole: the time for one model request must be shorter than the time for the whole task, so that a request that
runs out of time can still be reported.
-/
namespace RuleReview

structure Settings where
  online : Bool := true
  apiUrl : Glyphs := .ofText "https://devthreadline.com"
  model : Glyphs := .ofText "sonnet"
  /-- How many lines of context a rule is sent around each change. -/
  window : Nat := 10
  /-- How many lines of context git is asked for. -/
  gitWindow : Nat := 200
  taskSeconds : Binary64 := Binary64.ofInt 40
  requestSeconds : Binary64 := Binary64.ofInt 35
  fetchDepth : Nat := 50
  remote : Glyphs := .ofText "origin"

namespace Settings

def modeName (s : Settings) : Text := if s.online then "online" else "offline"

variable (c : Coercion)

def checkMode (v : Json) : Check Bool :=
  (c.text v).andThen fun mode =>
    let word := mode.text?.map fun s => s.trim.lower
    if word = some "online".toList then .pass true
    else if word = some "offline".toList then .pass false
    else .wrong (.rule (.concat ["mode must be 'online' or 'offline', got ", mode.quoted]))

def checkUrl (v : Json) : Check Glyphs := (c.text v).map (Glyphs.dropTrailing '/')

def checkFields (members : List (Text × Json)) : Check Settings :=
  let d : Settings := {}
  let field {α : Type} (name : Text) (absent : α) (check : Json → Check α) : Check α :=
    Check.field name members (.pass absent) check
  Settings.mk <$> field "mode" d.online (checkMode c)
    <*> field "api_url" d.apiUrl (checkUrl c)
    <*> field "model" d.model c.text
    <*> field "diff_context_lines" d.window (c.naturalFrom 0)
    <*> field "git_context_lines" d.gitWindow (c.naturalFrom 0)
    <*> field "task_timeout_seconds" d.taskSeconds c.positive
    <*> field "request_timeout_seconds" d.requestSeconds c.positive
    <*> field "branch_fetch_depth" d.fetchDepth (c.naturalFrom 1)
    <*> field "remote" d.remote c.text

def checkSeconds (s : Settings) : Check Settings :=
  if s.taskSeconds.le s.requestSeconds then
    .wrong (.rule (.concat ["request_timeout_seconds must be shorter than task_timeout_seconds (",
      s.requestSeconds.toText, " >= ", s.taskSeconds.toText, ")"]))
  else .pass s

def check (members : List (Text × Json)) : Check Settings := (checkFields c members).andThen checkSeconds

def ofMembers (members : List (Text × Json)) : Except Failure Settings :=
  (check c members).toExcept.mapError .values

end Settings

end RuleReview
