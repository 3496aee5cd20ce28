import RuleReview.FileTree.Basic
import RuleReview.Members
import RuleReview.Rule

/-! # What the model is told

A template is text with holes. Values are put into the holes as they are and never read as a template.
-/
namespace RuleReview

inductive Hole where
  | id
  | version
  | content
  | context
  | diff
  | files
  | contextFiles
  deriving DecidableEq, Repr

def Hole.name : Hole → Text
  | .id => "threadline_id"
  | .version => "threadline_version"
  | .content => "threadline_content"
  | .context => "context_section"
  | .diff => "diff"
  | .files => "files"
  | .contextFiles => "context_files"

inductive Piece where
  | text (s : Text)
  | hole (h : Hole)

abbrev Template := List Piece

namespace Template

def fill (value : Hole → Text) (t : Template) : Text :=
  t.flatMap fun
    | .text s => s
    | .hole h => value h

def source (t : Template) : Text := t.fill fun h => '$' :: h.name

def lines (ls : List String) : Piece := .text (Text.joinLines (ls.map String.toList))

def system : Template :=
  [lines [
      "You review code changes against exactly one team rule, called a threadline.",
      "You never flag problems the threadline does not describe. You answer with a",
      "single JSON object and nothing else.",
      ""]]

def contextFiles : Template :=
  [lines ["## Context files", "", ""],
   .hole .contextFiles,
   lines ["", "", ""]]

def check : Template :=
  [lines ["Threadline: "],
   .hole .id,
   lines [" (version "],
   .hole .version,
   lines [
      ")",
      "",
      "Check the code changes below ONLY against this threadline. Style issues, bugs,",
      "or other concerns outside the threadline are out of scope: if the changes do",
      "not break this threadline, the answer is \"compliant\" even when other problems",
      "exist.",
      "",
      "## Threadline guidelines",
      "",
      ""],
   .hole .content,
   lines ["", "", ""],
   .hole .context,
   lines ["## Code changes (unified diff)", "", ""],
   .hole .diff,
   lines [
      "",
      "",
      "## Files in this diff",
      "",
      ""],
   .hole .files,
   lines [
      "",
      "",
      "## How to read the diff",
      "",
      "- Each file starts with \"diff --git a/<path> b/<path>\". Use the b/ path as the file name.",
      "- \"@@ -a,b +c,d @@\" headers give line ranges; numbers after \"+\" are lines in the new file.",
      "- Lines starting with \"+\" are being added. A violation on a \"+\" line is new and needs attention.",
      "- Lines starting with \"-\" are being removed. A violation that only appears on \"-\" lines is being fixed.",
      "- If a change removes one violation but adds another, the added one wins: answer \"attention\".",
      "- Some violations concern a whole file or its structure rather than one line; report those too.",
      "",
      "## Answer format",
      "",
      "Return JSON only:",
      "\x7b",
      "  \"status\": \"compliant\" | \"attention\" | \"not_relevant\",",
      "  \"reasoning\": \"<explanation citing path:line for each violation, e.g. src/api/route.ts:8>\",",
      "  \"file_references\": [\"<paths from the list above that contain violations>\"]",
      "\x7d",
      "",
      "- \"compliant\": the changes follow this threadline.",
      "- \"attention\": the changes directly violate this threadline.",
      "- \"not_relevant\": this threadline does not apply to these changes.",
      "",
      "Only list files that actually contain violations in \"file_references\", and only",
      "files from the list above.",
      ""]]

end Template

structure Request where
  rule : Rule
  diff : Text
  files : List Text
  context : List (Text × Text)

namespace Request

def contextBlock (path content : Text) : Text := .concat ["--- ", path, " ---\n", content]

def contextText (context : List (Text × Text)) : Text :=
  if context.isEmpty then []
  else
    let blocks := Text.joinWith "\n\n" (context.map fun (path, content) => contextBlock path content)
    Template.contextFiles.fill fun
      | .contextFiles => blocks
      | _ => []

def prompt (r : Request) : Text :=
  Template.check.fill fun
    | .id => r.rule.id
    | .version => r.rule.version
    | .content => r.rule.content
    | .context => contextText r.context
    | .diff => r.diff
    | .files => Text.joinLines r.files
    | .contextFiles => []

end Request

def Template.named : List (String × Template) :=
  [("system.txt", .system), ("threadline_check.txt", .check), ("context_files.txt", .contextFiles)]

def Template.filesIn (folder : Path) : FileTree :=
  named.foldl (fun t (name, x) => Entry.set (.file (Text.encode x.source)) t (folder.names ++ [name.toList])) (.dir [])

/-- The text of the template with a name, which is the path of its file from their folder. -/
def Template.load (folder : Path) (name : Text) : Except Failure Text := do
  let file := folder.join (.ofText (name ++ ".txt".toList))
  let t := filesIn folder
  match ← (t.found? true file).mapError (.noFile file.toText) with
  | none => throw (.noFile file.toText .absent)
  | some _ => (t.readLossy file).mapError (.noFile file.toText)

end RuleReview
