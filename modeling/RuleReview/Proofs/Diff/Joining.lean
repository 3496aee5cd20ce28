import RuleReview.Proofs.Diff.Readable

/-! # Diffs one after the other

The line that opens a section ends whatever was open before it. So behind a text whose last line is ended, a text that
opens with a section is read as it is read alone: the sections of the one follow those of the other, and nothing else of
the second text counts but how it ends. Only where both texts can be read, the two together can.
-/
namespace RuleReview

namespace Text

theorem splitLines_append_break (s t : Text) : splitLines (s ++ '\n' :: t) = splitLines s ++ splitLines t :=
  splitOn_append_cons '\n' s t

theorem splitLines_append_of_notMem {p : Text} (hp : '\n' ∉ p) (s : Text) :
    splitLines (p ++ s) = (splitLines s).modifyHead (p ++ ·) := by
  induction p with
  | nil =>
    obtain ⟨l, ls, hls⟩ := List.exists_cons_of_ne_nil (splitLines_ne_nil s)
    rw [List.nil_append, hls, List.modifyHead_cons, List.nil_append]
  | cons c p ih =>
    rw [List.mem_cons, not_or] at hp
    rw [splitLines] at ih ⊢
    rw [List.cons_append, List.splitOn_cons_eq_if_modifyHead, if_neg (by simpa using Ne.symm hp.1), ih hp.2,
      List.modifyHead_modifyHead]
    rfl

end Text

namespace Diff
variable {a b s p : Text} {d e : Diff}

/-- The text has no line, or its last line is ended. -/
def IsClosed (s : Text) : Prop := s = [] ∨ s.getLast? = some '\n'

instance (s : Text) : Decidable (IsClosed s) := inferInstanceAs (Decidable (_ ∨ _))

/-- The text has no line, or its first line opens a section. -/
def IsHeaded (s : Text) : Prop := s = [] ∨ s.startsWith gitHeaderMark = true

instance (s : Text) : Decidable (IsHeaded s) := inferInstanceAs (Decidable (_ ∨ _))

theorem textLines_concat_break (s : Text) : textLines (s ++ ['\n']) = (Text.splitLines s, true) := by
  have hsplit : Text.splitLines (s ++ ['\n']) = Text.splitLines s ++ [[]] := Text.splitLines_append_break s []
  rw [textLines, if_neg (by simp), hsplit]
  simp

theorem textLines_append (ha : IsClosed a) (hb : b ≠ []) :
    textLines (a ++ b) = ((textLines a).1 ++ (textLines b).1, (textLines b).2) := by
  rcases ha with rfl | ha
  · rfl
  · obtain ⟨s, rfl⟩ := List.getLast?_eq_some_iff.mp ha
    have hsplit : Text.splitLines (s ++ ['\n'] ++ b) = Text.splitLines s ++ Text.splitLines b := by
      rw [List.append_assoc]
      exact Text.splitLines_append_break s b
    have hlast : (Text.splitLines s ++ Text.splitLines b).getLast? = (Text.splitLines b).getLast? :=
      List.getLast?_append_of_ne_nil _ (Text.splitLines_ne_nil b)
    have hnonempty : b.isEmpty = false := List.isEmpty_eq_false_iff.mpr hb
    rw [textLines_concat_break, textLines, if_neg (by simp), hsplit, textLines, hnonempty, if_neg Bool.false_ne_true]
    dsimp only
    rw [hlast]
    split
    · rw [List.dropLast_append_of_ne_nil (Text.splitLines_ne_nil b)]
    · rfl

theorem opensSection_head?_textLines (hb : IsHeaded b) : ∀ l ∈ (textLines b).1.head?, opensSection l = true := by
  rcases hb with rfl | hb
  · nofun
  obtain ⟨s, rfl⟩ := List.isPrefixOf_iff_prefix.mp hb
  obtain ⟨k, ks, hk⟩ := List.exists_cons_of_ne_nil (Text.splitLines_ne_nil s)
  have hsplit : Text.splitLines (gitHeaderMark ++ s) = (gitHeaderMark ++ k) :: ks := by
    rw [Text.splitLines_append_of_notMem (by decide), hk, List.modifyHead_cons]
  have hopens : opensSection (gitHeaderMark ++ k) = true := by
    rw [opensSection, Text.startsWith, List.isPrefixOf_iff_prefix]
    exact List.prefix_append _ k
  have hne : gitHeaderMark ++ s ≠ [] := List.append_ne_nil_of_left_ne_nil (by decide) s
  intro l hl
  rcases textLines_cases hne with ⟨ls, hls, ht⟩ | ⟨-, ht⟩
  · rw [ht] at hl
    rw [hsplit] at hls
    obtain ⟨ls', rfl⟩ := List.head?_eq_some_iff.mp hl
    rw [List.cons_append] at hls
    exact (List.cons.inj hls).1 ▸ hopens
  · rw [ht, hsplit] at hl
    exact Option.some_inj.mp hl ▸ hopens

theorem outline_headed {ks : List Text} (hks : ∀ k ∈ ks.head?, opensSection k = true) (n : ℕ) :
    (outline n ks).loose = [] ∧ (outline n ks).hunks = [] := by
  cases ks with
  | nil => exact ⟨rfl, rfl⟩
  | cons k ks =>
    rw [outline_section (hks k rfl)]
    exact ⟨rfl, rfl⟩

/-- Lines that open with a section leave what the lines before them are grouped into. -/
theorem outline_append {ks : List Text} (hks : ∀ k ∈ ks.head?, opensSection k = true) (ls : List Text) (n : ℕ) :
    outline n (ls ++ ks) =
      { outline n ls with sections := (outline n ls).sections ++ (outline (n + ls.length) ks).sections } := by
  induction ls generalizing n with
  | nil =>
    obtain ⟨hloose, hhunks⟩ := outline_headed hks n
    rw [List.nil_append, List.length_nil, Nat.add_zero, outline, List.nil_append, ← hloose, ← hhunks]
  | cons l ls ih =>
    have hn : n + 1 + ls.length = n + (l :: ls).length := by rw [List.length_cons]; omega
    rw [List.cons_append, outline, outline, ih, hn]
    dsimp only
    split
    · rfl
    · split <;> rfl

theorem preamble_of_headed (hb : IsHeaded b) (he : Diff.parse b = .ok e) : e.preamble = [] := by
  rw [← (parse_eq_ok.mp he).2.2.1]
  exact (outline_headed (opensSection_head?_textLines hb) 1).1

theorem isHeaded_of_parse (he : Diff.parse b = .ok e) (hpreamble : e.preamble = []) : IsHeaded b := by
  have htext := linesText_of_parse he
  cases hsections : e.sections with
  | nil =>
    rw [Diff.allLines, hpreamble, hsections] at htext
    exact .inl htext.symm
  | cons s ss =>
    obtain ⟨mark, extra, hheader⟩ := ((readable_of_parse he).sections s (by simp [hsections])).header
    have hlines : e.allLines = mark :: (extra ++ s.hunks.flatMap Hunk.allLines ++ ss.flatMap Section.allLines) := by
      rw [Diff.allLines, hpreamble, hsections, List.nil_append, List.flatMap_cons, Section.allLines, hheader.header]
      rfl
    rw [hlines, linesText, if_neg (by simp)] at htext
    have hmark : mark <+: b := htext ▸ (Text.prefix_joinLines_cons mark _).trans (List.prefix_append _ _)
    exact .inr (List.isPrefixOf_iff_prefix.mpr ((List.isPrefixOf_iff_prefix.mp hheader.opens).trans hmark))

/-- The sections of two diffs, the second of which is nothing but sections. -/
def followedBy (d e : Diff) : Diff := ⟨d.sections ++ e.sections, d.preamble, e.endsWithNewline⟩

theorem lines_followedBy (d e : Diff) : (d.followedBy e).lines = d.lines ++ e.lines := List.flatMap_append

theorem addedLines_followedBy (d e : Diff) : (d.followedBy e).addedLines = d.addedLines + e.addedLines := by
  rw [addedLines, lines_followedBy, List.countP_append, addedLines, addedLines]

theorem removedLines_followedBy (d e : Diff) : (d.followedBy e).removedLines = d.removedLines + e.removedLines := by
  rw [removedLines, lines_followedBy, List.countP_append, removedLines, removedLines]

theorem Readable.followedBy (hd : d.Readable) (he : e.Readable) : (d.followedBy e).Readable :=
  ⟨hd.preamble, List.forall_mem_append.mpr ⟨hd.sections, he.sections⟩⟩

/-- Two texts that can be read are read, one after the other, as the sections of both. -/
theorem parse_append_of_parse (ha : IsClosed a) (hb : IsHeaded b) (hne : b ≠ []) (hd : Diff.parse a = .ok d)
    (he : Diff.parse b = .ok e) : Diff.parse (a ++ b) = .ok (d.followedBy e) := by
  have hread : (d.followedBy e).Readable := (readable_of_parse hd).followedBy (readable_of_parse he)
  have hlines : (d.followedBy e).allLines = (textLines a).1 ++ (textLines b).1 := by
    rw [← allLines_of_parse hd, ← allLines_of_parse he, Diff.allLines, Diff.allLines, Diff.allLines,
      preamble_of_headed hb he, Diff.followedBy, List.flatMap_append, List.nil_append, List.append_assoc]
  have hends : (textLines b).2 = e.endsWithNewline := (parse_eq_ok.mp he).2.2.2
  rw [Diff.parse, textLines_append ha hne, hends, ← hlines]
  exact ofOutline_allLines hread _

theorem exists_parse_of_append (ha : IsClosed a) (hb : IsHeaded b) (hne : b ≠ [])
    (hd : Diff.parse (a ++ b) = .ok d) : (∃ d₁, Diff.parse a = .ok d₁) ∧ ∃ d₂, Diff.parse b = .ok d₂ := by
  have hheaded := opensSection_head?_textLines hb
  obtain ⟨hhunks, hsections, -, -⟩ := parse_eq_ok.mp hd
  rw [textLines_append ha hne, outline_append hheaded] at hhunks hsections
  have hall := exists_mapM_ok.mp ⟨_, hsections⟩
  obtain ⟨hleft, hright⟩ := List.forall_mem_append.mp hall
  obtain ⟨ss, hss⟩ := exists_mapM_ok.mpr hleft
  obtain ⟨ts, hts⟩ := exists_mapM_ok.mpr hright
  refine ⟨⟨⟨ss, _, _⟩, parse_eq_ok.mpr ⟨hhunks, hss, rfl, rfl⟩⟩, ?_⟩
  have hnumber := outline_grouped (1 + (textLines a).1.length) fun l hl => newline_notMem_textLines (s := b) hl
  let e : Diff := ⟨ts, [], (textLines b).2⟩
  have hread : e.Readable :=
    ⟨by simp [e], forall_of_mapM (fun _ _ hr hs => hr.readable hs) hnumber.sections hts⟩
  have hlines : e.allLines = (textLines b).1 := by
    obtain ⟨hloose, hhunks⟩ := outline_headed hheaded (1 + (textLines a).1.length)
    have hb := lines_outline (1 + (textLines a).1.length) (textLines b).1
    rw [Outline.lines, hloose, hhunks, ← readSections_lines hts] at hb
    exact hb
  exact ⟨e, by rw [Diff.parse, ← hlines]; exact ofOutline_allLines hread _⟩

theorem parse_append_eq_ok (ha : IsClosed a) (hb : IsHeaded b) (hne : b ≠ []) :
    Diff.parse (a ++ b) = .ok d ↔ ∃ d₁ d₂, Diff.parse a = .ok d₁ ∧ Diff.parse b = .ok d₂ ∧ d = d₁.followedBy d₂ := by
  constructor
  · intro hd
    obtain ⟨⟨d₁, h₁⟩, d₂, h₂⟩ := exists_parse_of_append ha hb hne hd
    exact ⟨d₁, d₂, h₁, h₂, Except.ok.inj (hd.symm.trans (parse_append_of_parse ha hb hne h₁ h₂))⟩
  · rintro ⟨d₁, d₂, h₁, h₂, rfl⟩
    exact parse_append_of_parse ha hb hne h₁ h₂

/-- A closed text and one that opens with a section can be read one after the other exactly when both can be read. What
is read is then the first diff with the sections of the second behind its own, and it ends as the second does, if that
has a text at all. -/
theorem parse_append (ha : IsClosed a) (hb : IsHeaded b) :
    ((∃ f, Diff.parse (a ++ b) = .error f) ↔ (∃ f, Diff.parse a = .error f) ∨ ∃ f, Diff.parse b = .error f) ∧
    ∀ d, Diff.parse (a ++ b) = .ok d → ∃ d₁ d₂, Diff.parse a = .ok d₁ ∧ Diff.parse b = .ok d₂ ∧
      d.sections = d₁.sections ++ d₂.sections ∧ d.preamble = d₁.preamble ∧
      d.endsWithNewline = (if b = [] then d₁ else d₂).endsWithNewline ∧
      d.addedLines = d₁.addedLines + d₂.addedLines ∧ d.removedLines = d₁.removedLines + d₂.removedLines := by
  simp only [exists_error_iff, ← not_and_or, not_iff_not]
  by_cases hne : b = []
  · subst hne
    have hnil : Diff.parse [] = .ok ⟨[], [], false⟩ := rfl
    simp only [List.append_nil, hnil]
    refine ⟨(and_iff_left ⟨_, rfl⟩).symm, fun d hd => ⟨d, _, hd, rfl, (List.append_nil _).symm, rfl, rfl, rfl, rfl⟩⟩
  · simp only [parse_append_eq_ok ha hb hne, if_neg hne]
    constructor
    · constructor
      · rintro ⟨-, d₁, d₂, h₁, h₂, -⟩
        exact ⟨⟨d₁, h₁⟩, d₂, h₂⟩
      · rintro ⟨⟨d₁, h₁⟩, d₂, h₂⟩
        exact ⟨_, d₁, d₂, h₁, h₂, rfl⟩
    · rintro d ⟨d₁, d₂, h₁, h₂, rfl⟩
      exact ⟨d₁, d₂, h₁, h₂, rfl, rfl, rfl, addedLines_followedBy d₁ d₂, removedLines_followedBy d₁ d₂⟩

/-- A text that ends within a hunk, and a section behind it that ends in the middle of a line. -/
theorem parse_append_sample : IsClosed sample ∧ IsHeaded "diff --git a/z b/z\n@@ -1 +1 @@\n-k\n+l" ∧
    ∃ d, Diff.parse (sample ++ "diff --git a/z b/z\n@@ -1 +1 @@\n-k\n+l".toList) = .ok d ∧
      d.sections.map Section.path = [some "x".toList, some "y".toList, some "z".toList] ∧
      d.endsWithNewline = false ∧ d.addedLines = 3 := by
  let b : Text := "diff --git a/z b/z\n@@ -1 +1 @@\n-k\n+l"
  have ha : IsClosed sample := by decide
  have hb : IsHeaded b := by decide
  have hread : (Diff.parse b).toOption.map (fun e => (e.sections.map Section.path, e.endsWithNewline, e.addedLines)) =
      some ([some "z".toList], false, 1) := by decide +kernel
  obtain ⟨e, he, hfacts⟩ := exists_ok_of_toOption hread
  obtain ⟨herror, hok⟩ := parse_append ha hb
  obtain ⟨d, hd⟩ : ∃ d, Diff.parse (sample ++ b) = .ok d := by
    by_contra hnone
    rcases herror.mp (exists_error_iff.mpr hnone) with ⟨f, hf⟩ | ⟨f, hf⟩
    · cases parse_sample.symm.trans hf
    · cases he.symm.trans hf
  obtain ⟨d₁, d₂, h₁, h₂, hsections, -, hends, hadded, -⟩ := hok d hd
  cases parse_sample.symm.trans h₁
  cases he.symm.trans h₂
  obtain ⟨hpaths, hfacts⟩ := Prod.mk.inj hfacts
  obtain ⟨hend, hcount⟩ := Prod.mk.inj hfacts
  refine ⟨ha, hb, d, hd, ?_, ?_, ?_⟩
  · rw [hsections, List.map_append, hpaths]
    rfl
  · rw [hends, if_neg (by decide), hend]
  · rw [hadded, hcount]
    rfl

end Diff

end RuleReview
