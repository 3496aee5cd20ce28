import RuleReview.Diff.Writer
import RuleReview.Proofs.Diff.Outline
import RuleReview.Proofs.Success
import RuleReview.Proofs.Text.Lines

/-! # Reading loses nothing

A diff that was read holds every line of its text in order, headers as they were written, so that writing it
gives the text again.
-/
namespace RuleReview.Diff

/-- The text of some lines, and whether the last of them is ended by a line feed. -/
def linesText (ls : List Text) (ended : Bool) : Text :=
  if ls.isEmpty then [] else Text.joinLines ls ++ (if ended then ['\n'] else [])

theorem serialize_eq (d : Diff) : d.serialize = linesText d.allLines d.endsWithNewline := rfl

theorem linesText_append (ls ks : List Text) : linesText (ls ++ ks) true = linesText ls true ++ linesText ks true := by
  by_cases hl : ls = []
  · subst hl
    rfl
  by_cases hk : ks = []
  · simp [hk, linesText]
  · simp [linesText, hl, hk, Text.joinLines_append hl hk]

theorem linesText_flatMap {α : Type} (f : α → List Text) (as : List α) :
    linesText (as.flatMap f) true = as.flatMap fun a => linesText (f a) true := by
  induction as with
  | nil => rfl
  | cons a as ih => rw [List.flatMap_cons, linesText_append, ih, List.flatMap_cons]

theorem textLines_nil : textLines [] = ([], false) := rfl

/-- The last part between line feeds is empty when the text ends with one, and is no line then. -/
theorem textLines_cases {s : Text} (hs : s ≠ []) :
    (∃ ls, Text.splitLines s = ls ++ [[]] ∧ textLines s = (ls, true)) ∨
      (Text.splitLines s).getLast? ≠ some [] ∧ textLines s = (Text.splitLines s, false) := by
  have he : s.isEmpty = false := List.isEmpty_eq_false_iff.mpr hs
  by_cases h : (Text.splitLines s).getLast? = some []
  · left
    obtain ⟨ls, hls⟩ := List.getLast?_eq_some_iff.mp h
    exact ⟨ls, hls, by simp [textLines, he, hls]⟩
  · exact .inr ⟨h, by simp [textLines, he, h]⟩

theorem linesText_textLines (s : Text) : linesText (textLines s).1 (textLines s).2 = s := by
  by_cases hs : s = []
  · subst hs
    rfl
  have hj := Text.joinLines_splitLines s
  rcases textLines_cases hs with ⟨ls, hls, ht⟩ | ⟨_, ht⟩
  · have hne : ls ≠ [] := by
      rintro rfl
      rw [hls] at hj
      exact hs hj.symm
    rw [hls, Text.joinLines_append_nil hne] at hj
    simp [ht, linesText, hne, hj]
  · simp [ht, linesText, Text.splitLines_ne_nil, hj]

/-- Lines are read back from their text, unless the last one is empty and no line feed ends it. -/
theorem textLines_linesText {ls : List Text} {ended : Bool} (hne : ls ≠ []) (hls : ∀ l ∈ ls, '\n' ∉ l)
    (hend : ended = true ∨ ls.getLast? ≠ some []) : textLines (linesText ls ended) = (ls, ended) := by
  have hlines : linesText ls ended = Text.joinLines ls ++ (if ended then ['\n'] else []) := by
    simp [linesText, hne]
  cases ended with
  | true =>
    have hsplit : Text.splitLines (linesText ls true) = ls ++ [[]] := by
      rw [hlines, if_pos rfl, ← Text.joinLines_append_nil hne]
      refine Text.splitLines_joinLines (by simp) fun l hl => ?_
      rcases List.mem_append.mp hl with hl | hl
      · exact hls l hl
      · rw [List.mem_singleton.mp hl]
        exact List.not_mem_nil
    have hs : linesText ls true ≠ [] := by simp [hlines]
    simp [textLines, hs, hsplit]
  | false =>
    have hlast : ls.getLast? ≠ some [] := hend.resolve_left (by simp)
    have hsplit : Text.splitLines (linesText ls false) = ls := by
      rw [hlines, if_neg (by simp), List.append_nil]
      exact Text.splitLines_joinLines hne hls
    have hs : linesText ls false ≠ [] := by
      intro h
      rw [h] at hsplit
      exact hlast (by rw [← hsplit]; rfl)
    simp [textLines, hs, hsplit, hlast]

theorem newline_notMem_textLines {s l : Text} (h : l ∈ (textLines s).1) : '\n' ∉ l := by
  by_cases hs : s = []
  · simp [hs, textLines_nil] at h
  rcases textLines_cases hs with ⟨ls, hls, ht⟩ | ⟨_, ht⟩
  · rw [ht] at h
    exact Text.newline_notMem_splitLines (s := s) (hls ▸ List.mem_append_left _ h)
  · rw [ht] at h
    exact Text.newline_notMem_splitLines h

theorem readHunk_lines {raw : RawHunk} {h : Hunk} (hr : readHunk raw = .ok h) :
    h.header = raw.header ∧ h.lines = raw.body := by
  rw [readHunk] at hr
  cases hp : headerParts? raw.header with
  | none => simp [hp] at hr
  | some parts =>
    simp only [hp, bind_eq_ok, pure_eq_ok] at hr
    obtain ⟨_, _, _, _, _, _, _, _, rfl⟩ := hr
    exact ⟨rfl, rfl⟩

/-- Header lines say something about a section and leave its lines as they are, and a path before the change too. -/
theorem applyHeaderLine_keeps {s t : Section} {line : Text} (h : applyHeaderLine s line = .ok t) :
    t.header = s.header ∧ t.hunks = s.hunks ∧ (s.oldPath.isSome = true → t.oldPath.isSome = true) := by
  rw [applyHeaderLine] at h
  split at h
  · cases h
    exact ⟨rfl, rfl, id⟩
  split at h
  · cases h
    exact ⟨rfl, rfl, id⟩
  split at h
  · obtain ⟨p, _, rfl⟩ := map_eq_ok.mp h
    exact ⟨rfl, rfl, fun hs => by simp [hs]⟩
  split at h
  · obtain ⟨_, _, rfl⟩ := map_eq_ok.mp h
    exact ⟨rfl, rfl, id⟩
  split at h
  · cases h
    exact ⟨rfl, rfl, id⟩
  split at h
  · obtain ⟨p, _, rfl⟩ := map_eq_ok.mp h
    cases p with
    | none => exact ⟨rfl, rfl, id⟩
    | some p => exact ⟨rfl, rfl, fun _ => rfl⟩
  split at h
  · obtain ⟨p, _, rfl⟩ := map_eq_ok.mp h
    cases p <;> exact ⟨rfl, rfl, id⟩
  · cases h
    exact ⟨rfl, rfl, id⟩

theorem readHeader_lines {mark : Text} {extra : List Text} {s : Section} (h : readHeader mark extra = .ok s) :
    s.header = mark :: extra ∧ s.hunks = [] := by
  obtain ⟨paths, _, h⟩ := bind_eq_ok.mp h
  refine foldlM_invariant (fun t : Section => t.header = mark :: extra ∧ t.hunks = []) ?_ ⟨rfl, rfl⟩ h
  intro t line u ht hu
  obtain ⟨hheader, hhunks, -⟩ := applyHeaderLine_keeps hu
  exact ⟨hheader.trans ht.1, hhunks.trans ht.2⟩

theorem readSection_eq_ok {raw : RawSection} {s : Section} :
    readSection raw = .ok s ↔
      readHeader raw.header raw.extra = .ok { s with hunks := [] } ∧ raw.hunks.mapM readHunk = .ok s.hunks := by
  simp only [readSection, bind_eq_ok, pure_eq_ok]
  constructor
  · rintro ⟨t, ht, hunks, hh, rfl⟩
    have ht0 : { t with hunks := [] } = t := by rw [← (readHeader_lines ht).2]
    exact ⟨by simpa [ht0] using ht, hh⟩
  · rintro ⟨ht, hh⟩
    exact ⟨_, ht, _, hh, rfl⟩

theorem readHunks_lines {raws : List RawHunk} {hs : List Hunk} (h : raws.mapM readHunk = .ok hs) :
    hs.flatMap Hunk.allLines = raws.flatMap RawHunk.lines := by
  refine flatMap_eq_of_mapM (fun raw k hk => ?_) h
  obtain ⟨hheader, hbody⟩ := readHunk_lines hk
  rw [Hunk.allLines, hheader, hbody, RawHunk.lines]

theorem readSections_lines {raws : List RawSection} {ss : List Section} (h : raws.mapM readSection = .ok ss) :
    ss.flatMap Section.allLines = raws.flatMap RawSection.lines := by
  refine flatMap_eq_of_mapM (fun raw s hs => ?_) h
  obtain ⟨hheader, hhunks⟩ := readSection_eq_ok.mp hs
  have hlines : s.header = raw.header :: raw.extra := (readHeader_lines hheader).1
  rw [Section.allLines, hlines, readHunks_lines hhunks, RawSection.lines]

/-- What a text must be for its diff: no hunk stands before the sections, and every section can be read. -/
theorem parse_eq_ok {s : Text} {d : Diff} :
    Diff.parse s = .ok d ↔
      (outline 1 (textLines s).1).hunks = [] ∧
      (outline 1 (textLines s).1).sections.mapM readSection = .ok d.sections ∧
      (outline 1 (textLines s).1).loose = d.preamble ∧ (textLines s).2 = d.endsWithNewline := by
  rw [Diff.parse, ofOutline]
  cases hh : (outline 1 (textLines s).1).hunks with
  | nil =>
    simp only [bind_eq_ok, pure_eq_ok, true_and]
    constructor
    · rintro ⟨sections, hs, rfl⟩
      exact ⟨hs, rfl, rfl⟩
    · rintro ⟨hs, hp, he⟩
      exact ⟨d.sections, hs, by rw [hp, he]⟩
  | cons h hs => simp

theorem allLines_of_parse {s : Text} {d : Diff} (h : Diff.parse s = .ok d) : d.allLines = (textLines s).1 := by
  obtain ⟨hhunks, hsections, hloose, _⟩ := parse_eq_ok.mp h
  have hlines := lines_outline 1 (textLines s).1
  rw [Outline.lines, hhunks, hloose, ← readSections_lines hsections] at hlines
  simpa [Diff.allLines] using hlines

theorem linesText_of_parse {s : Text} {d : Diff} (h : Diff.parse s = .ok d) :
    linesText d.allLines d.endsWithNewline = s := by
  rw [allLines_of_parse h, ← (parse_eq_ok.mp h).2.2.2, linesText_textLines]

/-- Writing a diff that was read gives its text, character for character. -/
theorem serialize_of_parse {s : Text} {d : Diff} (h : Diff.parse s = .ok d) : d.serialize = s := by
  rw [serialize_eq, linesText_of_parse h]

/-- A note before a section with a carriage return and an empty line, and a section that ends with a marker. -/
def sample : Text :=
  "note\n\ndiff --git a/x b/x\r\n@@ -1,3 +1,3 @@ f\n a\n+b\n\n-c\n".toList ++
    "diff --git a/y b/y\n@@ -3 +3 @@\n-u\n+v\n\\ No newline\n".toList

def sampleDiff : Diff where
  sections :=
    [{ header := ["diff --git a/x b/x\r"]
       hunks := [⟨1, 3, 1, 3, " f", "@@ -1,3 +1,3 @@ f", [" a", "+b", "", "-c"]⟩]
       oldPath := some "x"
       newPath := some "x" },
     { header := ["diff --git a/y b/y"]
       hunks := [⟨3, 1, 3, 1, "", "@@ -3 +3 @@", ["-u", "+v", "\\ No newline"]⟩]
       oldPath := some "y"
       newPath := some "y" }]
  preamble := ["note", ""]
  endsWithNewline := true

set_option maxRecDepth 2000 in
theorem parse_sample : Diff.parse sample = .ok sampleDiff := by rfl

theorem serialize_sampleDiff : sampleDiff.serialize = sample := serialize_of_parse parse_sample

end RuleReview.Diff
