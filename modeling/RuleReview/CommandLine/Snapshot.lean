import RuleReview.CommandLine.Tools

/-! # A world on record

The world of a command as one JSON object: the directory `here`, `files` by path, the `environment`, the
replies of `git` in their order, the model's `answers` by rule and the service's `status` and `body`. What is
left out is empty; git fails where it has no reply, and the model says nothing.
-/
namespace RuleReview.CommandLine

def checkMembers (check : Json → Check α) : Json → Check (List (Text × α))
  | .obj members => members.foldr (fun (name, v) rest =>
      (fun a more => (name, a) :: more) <$> (check v).within (.field name) <*> rest) (.pass [])
  | _ => .wrong (.rule "not an object")

def checkItems (check : Json → Check α) : Json → Check (List α)
  | .arr items => .items check items
  | _ => .wrong .list

def checkText : Json → Check Text
  | .str s => .pass s
  | _ => .wrong .text

structure RecordedReply where
  command : Command
  reply : Reply

def RecordedReply.check (v : Json) : Check RecordedReply :=
  (checkMembers .pass v).andThen fun ms =>
    (fun command out err code => ⟨command, .exited code (Text.encode out) (Text.encode err)⟩)
      <$> Check.field "command" ms (.wrong .missing) (checkItems checkText)
      <*> Check.field "out" ms (.pass []) checkText
      <*> Check.field "err" ms (.pass []) checkText
      <*> Check.field "code" ms (.pass 0) Loose.coercion.integer

/-- The replies to a command are used in their order, and the last one again and again. -/
def gitOf (replies : List RecordedReply) : Git := fun earlier command =>
  let mine := replies.filter (·.command = command)
  let used := (earlier.filter (· = command)).length
  ((mine[min used (mine.length - 1)]?).map (·.reply)).getD (.exited 128 [] [])

def modelOf (answers : List (Text × Text)) (rule : Text) : Conversation :=
  { events := (answers.lookup rule).toList.map .said ++ [.closed false none []] }

def treeOf (files : List (Text × Text)) : FileTree :=
  files.foldl (fun t (path, text) => Entry.set (.file (Text.encode text)) t (Path.ofText path).names) (.dir [])

def checkWorld (v : Json) : Check World :=
  (checkMembers .pass v).andThen fun ms =>
    let texts (name : Text) : Check (List (Text × Text)) :=
      Check.field name ms (.pass []) (checkMembers checkText)
    (fun here files env git answers status body =>
        { tools := .standard, tree := treeOf files, here := Path.root.join (.ofText here), environment := env,
          git := gitOf git, model := modelOf answers, service := fun _ => .answered status body,
          timing := fun _ => ⟨[], [], 0⟩, milliseconds := 0 })
      <$> Check.field "here" ms (.pass []) checkText
      <*> texts "files"
      <*> texts "environment"
      <*> Check.field "git" ms (.pass []) (checkItems RecordedReply.check)
      <*> texts "answers"
      <*> Check.field "status" ms (.pass 200) (Loose.coercion.naturalFrom 0)
      <*> Check.field "body" ms (.pass "\x7b\x7d".toList) checkText

def World.ofText (s : Text) : Except Text World :=
  match Json.parse s with
  | .error p => .error p.message
  | .ok v => (checkWorld v).toExcept.mapError fun is => Text.joinLines (is.map (Issue.located "world"))

end RuleReview.CommandLine
