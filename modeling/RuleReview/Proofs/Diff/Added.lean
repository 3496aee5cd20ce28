import Mathlib.Data.List.TakeWhile
import RuleReview.Diff.Added
import RuleReview.Proofs.Diff.Readable
import RuleReview.Proofs.Diff.Slim

/-! # Added sections are read back

The section of a new file is read as what it was made from. Its path stands twice in the line that opens it, so that
nothing in the path is taken for its end, and behind its plus sign a line of the content opens nothing.
-/
namespace RuleReview

namespace Text

theorem dropReturns_eq_self {s : Text} (h : s.getLast? ≠ some '\r') : Diff.dropReturns s = s := by
  rw [Diff.dropReturns, dropTrailing]
  cases hs : s.reverse with
  | nil =>
    rw [List.reverse_eq_nil_iff.mp hs]
    rfl
  | cons c r =>
    have hc : c ≠ '\r' := by
      rintro rfl
      rw [List.getLast?_eq_head?_reverse, hs] at h
      exact h rfl
    rw [List.dropWhile_cons_of_neg (by simpa using hc), ← hs, List.reverse_reverse]

end Text

namespace Diff

/-- A path that a header can name without quoting it. -/
structure IsNameable (path : Text) : Prop where
  nonempty : path ≠ []
  noBreak : '\n' ∉ path
  noTab : '\t' ∉ path
  noReturn : path.getLast? ≠ some '\r'
  notNull : path ≠ "dev/null".toList

instance (path : Text) : Decidable (IsNameable path) :=
  decidable_of_iff
    (path ≠ [] ∧ '\n' ∉ path ∧ '\t' ∉ path ∧ path.getLast? ≠ some '\r' ∧ path ≠ "dev/null".toList)
    ⟨fun ⟨h₁, h₂, h₃, h₄, h₅⟩ => ⟨h₁, h₂, h₃, h₄, h₅⟩, fun ⟨h₁, h₂, h₃, h₄, h₅⟩ => ⟨h₁, h₂, h₃, h₄, h₅⟩⟩

variable {path mode content : Text}

theorem pathOfName_append {side : Char} (hside : side = 'a' ∨ side = 'b') (hp : IsNameable path)
    (hnull : path ≠ "/dev/null".toList) : pathOfName (side :: '/' :: path) = some path := by
  have hname : nonempty path = some path := if_neg (by simpa using hp.nonempty)
  rcases hside with rfl | rfl
  all_goals
    rw [pathOfName]
    exact (if_neg (not_or.mpr ⟨hnull, hp.notNull⟩)).trans hname

theorem markedPath_append {side : Char} (hside : side = 'a' ∨ side = 'b') (hp : IsNameable path)
    (hnull : path ≠ "/dev/null".toList) : markedPath (side :: '/' :: path) = .ok (some path) := by
  have htab : ∀ c ∈ side :: '/' :: path, (c != '\t') = true := by
    have hne : ∀ c ∈ path, (c != '\t') = true := fun c hc => by
      rw [bne_iff_ne]
      rintro rfl
      exact hp.noTab hc
    rcases hside with rfl | rfl <;> simpa using hne
  have hup : Text.upTo '\t' (side :: '/' :: path) = side :: '/' :: path := List.takeWhile_eq_self_iff.mpr htab
  have hlast : (side :: '/' :: path).getLast? ≠ some '\r' := by
    obtain ⟨c, cs, rfl⟩ := List.exists_cons_of_ne_nil hp.nonempty
    simpa using hp.noReturn
  have hquote : unquoteIfQuoted (side :: '/' :: path) = .ok (side :: '/' :: path) := by
    rcases hside with rfl | rfl <;> rfl
  rw [markedPath, hup, Text.dropReturns_eq_self hlast, hquote, Except.map, pathOfName_append hside hp hnull]

/-- The names of a line that opens a section are cut in the middle, whatever the path holds. -/
theorem evenPair?_append (path : Text) :
    evenPair? ('a' :: '/' :: (path ++ ' ' :: 'b' :: '/' :: path)) =
      some ('a' :: '/' :: path, 'b' :: '/' :: path) := by
  have hsplit : 'a' :: '/' :: (path ++ ' ' :: 'b' :: '/' :: path) =
      ('a' :: '/' :: path) ++ ' ' :: 'b' :: '/' :: path := rfl
  have hhalf : (('a' :: '/' :: path ++ ' ' :: 'b' :: '/' :: path).length - 1) / 2 = ('a' :: '/' :: path).length := by
    simp only [List.length_append, List.length_cons]
    omega
  have hodd : ('a' :: '/' :: path ++ ' ' :: 'b' :: '/' :: path).length % 2 = 1 := by
    simp only [List.length_append, List.length_cons]
    omega
  rw [hsplit, evenPair?, hhalf, List.take_left, List.drop_left]
  exact if_pos ⟨hodd, rfl⟩

theorem headerPaths_append (hp : IsNameable path) (hnull : path ≠ "/dev/null".toList) :
    headerPaths (Text.concat ["diff --git a/", path, " b/", path]) = .ok (some path, some path) := by
  have hline : Text.concat ["diff --git a/", path, " b/", path] =
      gitHeaderMark ++ 'a' :: '/' :: (path ++ ' ' :: 'b' :: '/' :: path) := by
    rw [Text.concat]
    simp only [List.flatten_cons, List.flatten_nil, List.append_nil]
    rfl
  have hlast : ('a' :: '/' :: (path ++ ' ' :: 'b' :: '/' :: path)).getLast? ≠ some '\r' := by
    have hsplit : 'a' :: '/' :: (path ++ ' ' :: 'b' :: '/' :: path) =
        ('a' :: '/' :: path ++ [' ', 'b', '/']) ++ path := by simp
    rw [hsplit, List.getLast?_append_of_ne_nil _ hp.nonempty]
    exact hp.noReturn
  have hquoted : quotedPair? ('a' :: '/' :: (path ++ ' ' :: 'b' :: '/' :: path)) = none := rfl
  rw [headerPaths, hline, List.drop_left, Text.dropReturns_eq_self hlast]
  simp only [hquoted, evenPair?_append, Option.some_or, markedPath_append (.inl rfl) hp hnull,
    markedPath_append (.inr rfl) hp hnull]
  rfl

def noLineFeed : Text := "\\ No newline at end of file"

def newHunk (content : Text) : Hunk where
  oldStart := 0
  oldCount := 0
  newStart := 1
  newCount := (contentLines content).1.length
  heading := []
  header := Hunk.formatHeader 0 0 1 (contentLines content).1.length []
  lines := (contentLines content).1.map ('+' :: ·) ++ if (contentLines content).2 then [noLineFeed] else []

def markOf (path : Text) : Text := .concat ["diff --git a/", path, " b/", path]

def newExtra (path : Text) (content : Option Text) (mode : Text) : List Text :=
  .concat ["new file mode ", mode] :: match content with
    | none => [.concat ["Binary files /dev/null and b/", path, " differ"]]
    | some [] => []
    | some (_ :: _) => ["--- /dev/null".toList, .concat ["+++ b/", path]]

/-- The section of a new file: no content stands for a binary one. -/
def newSection (path : Text) (content : Option Text) (mode : Text) : Section where
  header := markOf path :: newExtra path content mode
  hunks := match content with
    | none | some [] => []
    | some (c :: content) => [newHunk (c :: content)]
  oldPath := some path
  newPath := some path
  isNew := true
  isBinary := content.isNone

theorem allLines_newSection (path : Text) (content : Option Text) (mode : Text) :
    (newSection path content mode).allLines = addedLinesOf path content mode := by
  match content with
  | none => rfl
  | some [] => rfl
  | some (c :: content) =>
    change (markOf path :: newExtra path (some (c :: content)) mode) ++ [newHunk (c :: content)].flatMap Hunk.allLines = _
    rw [List.flatMap_cons, List.flatMap_nil, List.append_nil]
    rfl

theorem applyHeaderLine_plus (hp : IsNameable path) (hnull : path ≠ "/dev/null".toList) (s : Section) :
    applyHeaderLine s (Text.concat ["+++ b/", path]) = .ok { s with newPath := some path } := by
  have hline : Text.concat ["+++ b/", path] = "+++ ".toList ++ 'b' :: '/' :: path := by
    rw [Text.concat]
    simp only [List.flatten_cons, List.flatten_nil, List.append_nil]
    rfl
  rw [hline]
  change (markedPath ('b' :: '/' :: path)).map _ = _
  rw [markedPath_append (.inr rfl) hp hnull]
  rfl

theorem readHeader_new (hp : IsNameable path) (hnull : path ≠ "/dev/null".toList) (content : Option Text)
    (mode : Text) :
    readHeader (markOf path) (newExtra path content mode) = .ok { newSection path content mode with hunks := [] } := by
  rw [readHeader, markOf, headerPaths_append hp hnull]
  match content with
  | none => rfl
  | some [] => rfl
  | some (c :: content) =>
    let s : Section :=
      { header := markOf path :: newExtra path (some (c :: content)) mode
        oldPath := some path
        newPath := some path
        isNew := true }
    change (applyHeaderLine s (Text.concat ["+++ b/", path]) >>= pure) = _
    rw [applyHeaderLine_plus hp hnull]
    rfl

theorem newline_notMem_contentLines {l : Text} (h : l ∈ (contentLines content).1) : '\n' ∉ l := by
  rw [contentLines] at h
  split at h
  · exact Text.newline_notMem_splitLines (List.mem_of_mem_dropLast h)
  · exact Text.newline_notMem_splitLines h

theorem isPlain_plus {l : Text} (h : '\n' ∉ l) : IsPlain ('+' :: l) := ⟨rfl, rfl, by simpa using h⟩

theorem readable_newHunk (hw : Numeral.isWritable (contentLines content).1.length = true) :
    (newHunk content).Readable := by
  have hzero : Numeral.isWritable 0 = true := by decide +kernel
  have hone : Numeral.isWritable 1 = true := by decide +kernel
  refine ⟨opensHunk_formatHeader 0 0 1 _ [], newline_notMem_formatHeader 0 0 1 _ (by simp), ?_, fun l hl => ?_⟩
  · exact readHunk_formatHeader (a := 0) (b := 0) (c := 1) (d := (contentLines content).1.length) rfl rfl rfl rfl
      (Hunk.isWritable_iff.mpr ⟨hzero, hzero, hone, hw⟩) rfl
  · rcases List.mem_append.mp hl with hl | hl
    · obtain ⟨k, hk, rfl⟩ := List.mem_map.mp hl
      exact isPlain_plus (newline_notMem_contentLines hk)
    · split at hl
      · rw [List.mem_singleton.mp hl]
        exact ⟨rfl, rfl, by decide⟩
      · cases hl

theorem isPlain_newExtra (hp : IsNameable path) (hmode : '\n' ∉ mode) (content : Option Text) :
    ∀ l ∈ newExtra path content mode, IsPlain l := by
  have hpath := hp.noBreak
  have hfirst : IsPlain (Text.concat ["new file mode ", mode]) :=
    ⟨rfl, rfl, by simpa [Text.concat] using hmode⟩
  rcases content with _ | _ | ⟨c, content⟩
  · have hbinary : IsPlain (Text.concat ["Binary files /dev/null and b/", path, " differ"]) :=
      ⟨rfl, rfl, by simpa [Text.concat] using hpath⟩
    simpa [newExtra] using ⟨hfirst, hbinary⟩
  · simpa [newExtra] using hfirst
  · have hminus : IsPlain "--- /dev/null" := ⟨rfl, rfl, by decide⟩
    have hplus : IsPlain (Text.concat ["+++ b/", path]) := ⟨rfl, rfl, by simpa [Text.concat] using hpath⟩
    simpa [newExtra] using ⟨hfirst, hminus, hplus⟩

/-- The lines of the content can be counted in a header. -/
def IsCountable (content : Option Text) : Prop :=
  ∀ s ∈ content, Numeral.isWritable (contentLines s).1.length = true

theorem length_contentLines_le (content : Text) : (contentLines content).1.length ≤ content.length + 1 := by
  rw [contentLines]
  split
  · rw [List.length_dropLast]
    exact (Nat.sub_le _ 1).trans (Text.length_splitLines_le content)
  · exact Text.length_splitLines_le content

/-- A content has no more lines than can be counted unless it is longer than any number that can be written. -/
theorem isCountable_of_length_lt {content : Option Text} (h : ∀ s ∈ content, s.length < Numeral.greatest) :
    IsCountable content := fun s hs =>
  Numeral.isWritable_of_le (Int.natCast_nonneg _) (Int.ofNat_le.mpr ((length_contentLines_le s).trans (h s hs)))
    Numeral.isWritable_greatest

theorem readable_newSection (hp : IsNameable path) (hnull : path ≠ "/dev/null".toList) (hmode : '\n' ∉ mode)
    {content : Option Text} (hc : IsCountable content) : (newSection path content mode).Readable := by
  have hmark : '\n' ∉ markOf path := by simpa [markOf, Text.concat] using hp.noBreak
  refine ⟨⟨markOf path, newExtra path content mode, rfl, rfl, hmark, isPlain_newExtra hp hmode content,
    readHeader_new hp hnull content mode⟩, fun h hh => ?_⟩
  rcases content with _ | _ | ⟨c, content⟩
  · cases hh
  · cases hh
  · rw [List.mem_singleton.mp hh]
    exact readable_newHunk (hc _ rfl)

theorem contentLines_eq (hne : content ≠ []) :
    contentLines content = ((textLines content).1, !(textLines content).2) := by
  have he : content.isEmpty = false := List.isEmpty_eq_false_iff.mpr hne
  rw [contentLines, textLines, he, if_neg Bool.false_ne_true]
  dsimp only
  split <;> rfl

end Diff

/-- The text that the added lines of a hunk make up; a marker after them says that nothing ends the last one. -/
def Hunk.addedText (h : Hunk) : Text :=
  Text.joinLines ((h.lines.filter (Line.kind · = .added)).map Line.content) ++
    if h.lines.getLast?.any Line.isMarker then [] else ['\n']

/-- The section says of the path that its file is new, and shows what the file holds, if that is a text. -/
structure Section.Adds (s : Section) (path : Text) (content : Option Text) : Prop where
  path : s.path = some path
  isNew : s.isNew = true
  kept : s.isDeleted = false
  binary : s.isBinary = content.isNone
  bare : content = none ∨ content = some [] → s.hunks = []
  shown : ∀ text, content = some text → text ≠ [] → ∃ h, s.hunks = [h] ∧ h.oldStart = 0 ∧ h.oldCount = 0 ∧
    h.newStart = 1 ∧ h.newCount = h.lines.countP (Line.kind · = .added) ∧ h.addedText = text

namespace Diff
variable {path mode content : Text}

theorem filter_added_newHunk (content : Text) :
    (newHunk content).lines.filter (Line.kind · = .added) = (contentLines content).1.map ('+' :: ·) := by
  have hplus : ((contentLines content).1.map ('+' :: ·)).filter (Line.kind · = .added) =
      (contentLines content).1.map ('+' :: ·) := by
    rw [List.filter_eq_self, List.forall_mem_map]
    exact fun l _ => rfl
  have hmarker : (if (contentLines content).2 then [noLineFeed] else []).filter (Line.kind · = .added) = [] := by
    split <;> rfl
  rw [newHunk]
  dsimp only
  rw [List.filter_append, hplus, hmarker, List.append_nil]

theorem isMarker_getLast?_newHunk (content : Text) :
    (newHunk content).lines.getLast?.any Line.isMarker = (contentLines content).2 := by
  rw [newHunk]
  dsimp only
  cases (contentLines content).2 with
  | true =>
    rw [if_pos rfl, List.getLast?_append_of_ne_nil _ (List.cons_ne_nil _ _)]
    rfl
  | false =>
    rw [if_neg Bool.false_ne_true, List.append_nil, List.getLast?_map]
    cases (contentLines content).1.getLast? <;> rfl

theorem addedText_newHunk (hne : content ≠ []) : (newHunk content).addedText = content := by
  have hlines := linesText_textLines content
  have hsome : (textLines content).1 ≠ [] := by
    intro hnil
    rw [hnil] at hlines
    exact hne hlines.symm
  have hcontent : ((contentLines content).1.map ('+' :: ·)).map Line.content = (contentLines content).1 := by
    rw [List.map_map]
    exact List.map_id _
  rw [Hunk.addedText, filter_added_newHunk, isMarker_getLast?_newHunk, hcontent, contentLines_eq hne]
  rw [linesText, if_neg (by simpa using hsome)] at hlines
  cases hended : (textLines content).2 <;> simpa [hended] using hlines

theorem adds_newSection (path : Text) (content : Option Text) (mode : Text) :
    (newSection path content mode).Adds path content := by
  refine ⟨rfl, rfl, rfl, rfl, ?_, ?_⟩
  · rintro (rfl | rfl) <;> rfl
  · rintro text rfl hne
    obtain ⟨c, cs, rfl⟩ := List.exists_cons_of_ne_nil hne
    refine ⟨newHunk (c :: cs), rfl, rfl, rfl, rfl, ?_, addedText_newHunk hne⟩
    rw [List.countP_eq_length_filter, filter_added_newHunk, List.length_map]
    rfl

/-- The sections of new files, one after the other, are read as these sections and nothing else. -/
theorem parse_newSections {α : Type} {as : List α} {path mode : α → Text} {content : α → Option Text}
    (h : ∀ a ∈ as, (newSection (path a) (content a) (mode a)).Readable) :
    ∃ ended, Diff.parse (as.flatMap fun a => addedSection (path a) (content a) (mode a)) =
      .ok ⟨as.map fun a => newSection (path a) (content a) (mode a), [], ended⟩ := by
  by_cases hne : as = []
  · subst hne
    exact ⟨false, rfl⟩
  let d : Diff := ⟨as.map fun a => newSection (path a) (content a) (mode a), [], true⟩
  have hr : d.Readable := ⟨by simp [d], List.forall_mem_map.mpr h⟩
  have hlines : d.allLines = as.flatMap fun a => addedLinesOf (path a) (content a) (mode a) := by
    simp only [d, Diff.allLines, List.nil_append, List.flatMap_map, allLines_newSection]
  have hsome : ∀ p c m, addedLinesOf p c m ≠ [] := by
    intro p c m hnil
    rw [← allLines_newSection] at hnil
    cases hnil
  have htext : d.serialize = as.flatMap fun a => addedSection (path a) (content a) (mode a) := by
    rw [serialize_eq, hlines, linesText_flatMap]
    refine List.flatMap_congr fun a _ => ?_
    rw [linesText, if_neg (by simpa using hsome _ _ _), addedSection]
    rfl
  exact ⟨true, htext ▸ hr.parse_serialize (hr.allLines_ne_nil (by simpa [d] using hne)) (.inl rfl)⟩

end Diff

end RuleReview
