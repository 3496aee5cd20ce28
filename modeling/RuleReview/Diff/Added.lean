import RuleReview.Text.Lines

/-! # Files as added sections

A file that was not there before is shown as a section in which every line is added.
-/
namespace RuleReview.Diff

def regularMode : Text := "100644"

def linkMode : Text := "120000"

def contentLines (content : Text) : List Text × Bool :=
  let ls := content.splitLines
  if ls.getLast? = some [] then (ls.dropLast, false) else (ls, true)

def addedLinesOf (path : Text) (content : Option Text) (mode : Text) : List Text :=
  let header := [Text.concat ["diff --git a/", path, " b/", path], Text.concat ["new file mode ", mode]]
  match content with
  | none => header ++ [Text.concat ["Binary files /dev/null and b/", path, " differ"]]
  | some [] => header
  | some content =>
    let (ls, open_) := contentLines content
    header ++ ["--- /dev/null".toList, Text.concat ["+++ b/", path],
      Text.concat ["@@ -0,0 +1,", Text.ofNat ls.length, " @@"]] ++ ls.map ('+' :: ·) ++
      (if open_ then ["\\ No newline at end of file".toList] else [])

def addedSection (path : Text) (content : Option Text) (mode : Text) : Text :=
  Text.joinLines (addedLinesOf path content mode) ++ ['\n']

end RuleReview.Diff
