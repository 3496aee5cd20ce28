import RuleReview.FileTree.Folder
import RuleReview.Log
import RuleReview.Rule

/-! # The folder of rules

Every Markdown file directly in the folder is a rule, in the order of their names. A file that is no rule is
skipped with a warning, and so is a rule whose name is taken; a folder without a rule is a failure.
-/
namespace RuleReview.Rule

def folderName : Text := "threadlines"

/-- The path of a file seen from a root, or the path itself when it is not below. -/
def pathFrom (root file : Path) : Text := (root.from? file).elim file.toText Path.namesText

def isFile (t : FileTree) (p : Path) : Except Failure Bool := (t.hasFile p).mapError (.noFile p.toText)

/-- Whether a name from a header is that of a file. A name that is broken is no path, unless it stands for bytes. -/
def isContext (t : FileTree) (root : Path) (name : Glyphs) : Except Failure Bool :=
  match name.fileName? with
  | some s => isFile t (root.join (.ofText s))
  | none => .ok false

def ofFile (lang : HeaderLanguage) (t : FileTree) (root file : Path) : Except Failure RuleFile :=
  let path := pathFrom root file
  match t.readText file with
  | .error p => .error (.ofFile (fun _ => .rule path .unreadable) file.toText p)
  | .ok (.error _) => .error (.rule path .unreadable)
  | .ok (.ok s) => read lang (isContext t root) path s

def filesIn (t : FileTree) (folder : Path) : Except Failure (List Path) :=
  let named := (t.childNames folder).filter (Text.endsWith · ".md")
  (named.map folder.child).filterM (isFile t)

def gather (lang : HeaderLanguage) (t : FileTree) (root : Path) :
    List Path → List RuleFile → List LogLine → Except Failure (List RuleFile) × List LogLine
  | [], rules, logs => (.ok rules, logs)
  | file :: files, rules, logs =>
    match ofFile lang t root file with
    | .error (.rule path p) =>
      let line := Text.concat ["Skipping invalid threadline ", (Failure.rule path p).message]
      gather lang t root files rules (logs ++ [⟨.warning, line⟩])
    | .error e => (.error e, logs)
    | .ok r =>
      match rules.find? (·.id = r.id) with
      | some first =>
        let line := Text.concat ["Skipping ", r.path, ": duplicate id '", r.id.escaped, "' already defined in ",
          first.path]
        gather lang t root files rules (logs ++ [⟨.warning, line⟩])
      | none => gather lang t root files (rules ++ [r]) logs

def files (t : FileTree) (root : Path) : Except Failure (List Path) := do
  let folder := root.child folderName
  if !(← (t.hasDirectory folder).mapError (.noFile folder.toText)) then throw (.configuration .noRuleFolder)
  match ← filesIn t folder with
  | [] => throw (.configuration .noRuleFiles)
  | found => return found

def all (lang : HeaderLanguage) (t : FileTree) (root : Path) : Except Failure (List RuleFile) × List LogLine :=
  match files t root with
  | .error e => (.error e, [])
  | .ok found =>
    match gather lang t root found [] [] with
    | (.error e, logs) => (.error e, logs)
    | (.ok [], logs) => (.error (.configuration .noValidRules), logs)
    | (.ok rules, logs) =>
      (.ok rules, logs ++ [⟨.debug, .concat ["Loaded ", Text.ofNat rules.length, " threadline(s)"]⟩])

end RuleReview.Rule
