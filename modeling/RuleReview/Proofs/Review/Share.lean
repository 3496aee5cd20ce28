import RuleReview.Review
import RuleReview.Proofs.Change.Build
import RuleReview.Proofs.Diff.Changes
import RuleReview.Proofs.Diff.Trim
import RuleReview.Proofs.Glob.Select

/-! # The share of a rule

A rule is sent the sections with changes whose path its patterns cover, and of these sections every change. It is
sent nothing of other sections, and the paths beside the text are those of the sections in it.
-/
namespace RuleReview

/-- Whether a section is a rule's: its path is covered, and it has changes. -/
def Rule.concerns (r : Rule) (s : Section) : Bool := s.path.any (Glob.covers r.patterns) && s.hasChanges

/-- The numbers of all hunks that are a rule's can be written once they are narrowed. -/
def Rule.CanReceive (r : Rule) (d : Diff) (n : ℕ) : Prop :=
  ∀ s ∈ d.sections, r.concerns s = true → ∀ h ∈ s.hunks, h.hasChanges = true → (h.slimmed n).isWritable = true

namespace Review
variable {rule : Rule} {c : Change} {d : Diff}

def sent (rule : Rule) (c : Change) (d : Diff) (n : ℕ) : Diff :=
  (d.restrict (c.files.filter (Glob.covers rule.patterns))).slim n

theorem share_eq (hrule : Glob.Compile rule.patterns) (hc : c.hasContent = true) (d : Diff) (n : ℕ) :
    share rule c d n =
      if (sent rule c d n).isWritable then
        .ok ⟨c.files.filter (Glob.covers rule.patterns), (sent rule c d n).serialize,
          (sent rule c d n).changedFiles⟩
      else .error (.numeral .unwritable) := by
  simp only [share, Glob.select_eq hrule, hc, Bool.not_true, Bool.or_false, bind, Except.bind, pure, Except.pure,
    Diff.narrow_natCast]
  by_cases hpaths : c.files.filter (Glob.covers rule.patterns) = []
  · have hnone : d.sections.filter (Section.isAmong []) = [] := by
      rw [List.filter_eq_nil_iff]
      intro s _
      cases hs : s.path <;> simp [Section.isAmong, hs]
    have hsent : sent rule c d n = ⟨[], [], d.endsWithNewline⟩ := by
      simp [sent, hpaths, Diff.restrict, hnone, Diff.slim, Diff.withSections]
    rw [hsent, hpaths]
    rfl
  · have hsome : (c.files.filter (Glob.covers rule.patterns)).isEmpty = false :=
      List.isEmpty_eq_false_iff.mpr hpaths
    rw [hsome, if_neg Bool.false_ne_true, ← sent]
    by_cases hw : (sent rule c d n).isWritable = true
    · rw [if_pos hw, if_pos hw]
    · rw [if_neg hw, if_neg hw]

theorem sections_restrict (hfiles : c.files = d.changedFiles) :
    (d.restrict (c.files.filter (Glob.covers rule.patterns))).sections =
      d.sections.filter fun s => s.path.any (Glob.covers rule.patterns) := by
  refine List.filter_congr fun s hs => ?_
  rw [Section.isAmong]
  cases hp : s.path with
  | none => rfl
  | some path =>
    have hmem : path ∈ c.files := by
      rw [hfiles, Diff.changedFiles, List.mem_eraseDups]
      exact List.mem_filterMap.mpr ⟨s, hs, hp⟩
    rw [Option.any_some, Option.any_some, Bool.eq_iff_iff, List.contains_iff_mem, List.mem_filter]
    exact and_iff_right hmem

theorem sections_sent (hfiles : c.files = d.changedFiles) (n : ℕ) :
    (sent rule c d n).sections = (d.sections.filter rule.concerns).map (Section.slimmed · n) := by
  rw [sent, Diff.sections_slim, sections_restrict hfiles, List.filter_filter]
  refine congrArg _ (List.filter_congr fun s _ => ?_)
  rw [Rule.concerns, Bool.and_comm]

theorem isWritable_sent (hfiles : c.files = d.changedFiles) (n : ℕ) :
    (sent rule c d n).isWritable = true ↔ rule.CanReceive d n := by
  rw [Diff.isWritable_iff, sections_sent hfiles]
  simp only [List.forall_mem_map, List.mem_filter, Section.slimmed, and_imp, Rule.CanReceive]

theorem preamble_sent (hfiles : c.files = d.changedFiles) (n : ℕ) :
    (sent rule c d n).preamble = if (d.sections.filter rule.concerns).isEmpty then [] else d.preamble := by
  have hsections : (sent rule c d n).sections = _ := sections_sent hfiles n
  rw [sent, Diff.slim, Diff.withSections] at hsections ⊢
  dsimp only at hsections ⊢
  rw [hsections, List.isEmpty_map]
  by_cases hnone : (d.sections.filter rule.concerns).isEmpty = true
  · rw [if_pos hnone, if_pos hnone]
  · rw [if_neg hnone, if_neg hnone, Diff.restrict, Diff.withSections]
    dsimp only
    rw [if_neg]
    intro hempty
    rw [Diff.restrict, Diff.withSections, List.isEmpty_iff.mp hempty] at hsections
    exact hnone (by simpa using hsections)

theorem changedFiles_sent (hfiles : c.files = d.changedFiles) (n : ℕ) :
    (sent rule c d n).changedFiles = ((d.sections.filter rule.concerns).filterMap Section.path).eraseDups := by
  rw [Diff.changedFiles, sections_sent hfiles, List.filterMap_map]
  rfl

theorem changedFiles_sent_subset (hfiles : c.files = d.changedFiles) (n : ℕ) :
    (sent rule c d n).changedFiles ⊆ c.files.filter (Glob.covers rule.patterns) := by
  intro path hpath
  rw [changedFiles_sent hfiles, List.mem_eraseDups] at hpath
  obtain ⟨s, hs, hsp⟩ := List.mem_filterMap.mp hpath
  obtain ⟨hsd, hconcerns⟩ := List.mem_filter.mp hs
  rw [Rule.concerns, hsp, Option.any_some, Bool.and_eq_true] at hconcerns
  rw [List.mem_filter, hfiles, Diff.changedFiles, List.mem_eraseDups]
  exact ⟨List.mem_filterMap.mpr ⟨s, hsd, hsp⟩, hconcerns.1⟩

theorem narrows_sent (hfiles : c.files = d.changedFiles) (n : ℕ) :
    List.Forall₂ Section.Narrows (sent rule c d n).sections (d.sections.filter rule.concerns) := by
  rw [sections_sent hfiles]
  exact List.forall₂_map_left_iff.mpr (List.forall₂_same.mpr fun s _ => s.narrows_slimmed n)

theorem exists_parse_sent (hd : c.parsed = .ok d) (hfiles : c.files = d.changedFiles) {n : ℕ}
    (hw : (sent rule c d n).isWritable = true) :
    ∃ e, Diff.parse (sent rule c d n).serialize = .ok e ∧ e.serialize = (sent rule c d n).serialize ∧
      e.preamble = (sent rule c d n).preamble ∧
      List.Forall₂ Section.Narrows e.sections (d.sections.filter rule.concerns) := by
  have hread : (sent rule c d n).Readable :=
    ((Diff.readable_of_parse hd).restrict _).narrow (Diff.narrow_eq_ok.mpr ⟨hw, rfl⟩)
  have hpre : (sent rule c d n).sections = [] → (sent rule c d n).preamble = [] := by
    intro hnil
    rw [sections_sent hfiles, List.map_eq_nil_iff] at hnil
    rw [preamble_sent hfiles, hnil]
    rfl
  obtain ⟨e, he, htext, hpreamble, hnarrow⟩ := (Diff.isNarrow_slim _ n).exists_parse hread hpre
  exact ⟨e, he, htext, hpreamble, forall₂_trans (fun _ _ _ hu ht => hu.trans ht) hnarrow (narrows_sent hfiles n)⟩

/-- A rule is sent exactly its part of a change, unless some number in it is too long to be written: then there is
no share. The text is that of a diff with the sections that are the rule's in their order, each with its header and
with all of its changes, and the paths are those of these sections, all of them covered. -/
theorem share_spec {text : Text} (hblank : text.isBlankText = false) {names warnings : List Text}
    {strategy : Strategy} {base head : Option Text}
    (hc : Change.build text names strategy base head warnings = .ok c) (hd : c.parsed = .ok d)
    (hrule : Glob.Compile rule.patterns) (n : ℕ) :
    (rule.CanReceive d n →
      ∃ sh e, share rule c d n = .ok sh ∧ Diff.parse sh.diff = .ok e ∧ e.serialize = sh.diff ∧
        List.Forall₂ (fun t s => t.Narrows s ∧ t.header = s.header ∧ t.changes = s.changes)
          e.sections (d.sections.filter rule.concerns) ∧
        e.preamble = (if (d.sections.filter rule.concerns).isEmpty then [] else d.preamble) ∧
        sh.paths = c.files.filter (Glob.covers rule.patterns) ∧
        sh.files = ((d.sections.filter rule.concerns).filterMap Section.path).eraseDups ∧
        sh.files ⊆ sh.paths) ∧
    (¬ rule.CanReceive d n → share rule c d n = .error (.numeral .unwritable)) := by
  obtain ⟨hcontent, d', hd', hfiles⟩ := Change.build_eq_ok hblank hc
  obtain rfl : d' = d := Except.ok.inj (hd'.symm.trans hd)
  rw [share_eq hrule hcontent]
  refine ⟨fun hw => ?_, fun hw => if_neg fun hp => hw ((isWritable_sent hfiles n).mp hp)⟩
  have hp : (sent rule c d' n).isWritable = true := (isWritable_sent hfiles n).mpr hw
  obtain ⟨e, he, htext, hpreamble, hsections⟩ := exists_parse_sent hd hfiles hp
  exact ⟨_, e, if_pos hp, he, htext, hsections.imp fun t s ht => ⟨ht, ht.header, ht.changes_eq⟩,
    hpreamble.trans (preamble_sent hfiles n), rfl, changedFiles_sent hfiles n, changedFiles_sent_subset hfiles n⟩

def sampleRule : Rule := ⟨"t", "1.0.0", ["x"], "Rule.", "threadlines/t.md", []⟩

theorem compile_sampleRule : Glob.Compile sampleRule.patterns := by
  intro p hp
  rw [List.mem_singleton.mp hp]
  exact ⟨.tokens [.lit 'x'], rfl⟩

def sampleChange : Change := ⟨Diff.sample, ["x", "y"], .commit, none, none, []⟩

theorem share_sample :
    ∃ sh e, share sampleRule sampleChange Diff.sampleDiff 0 = .ok sh ∧ Diff.parse sh.diff = .ok e ∧
      e.sections.length = 1 ∧ sh.paths = ["x"] ∧ sh.files = ["x"] := by
  have hblank : Diff.sample.isBlankText = false := by decide
  have hbuild : Change.build Diff.sample [] .commit none none [] = .ok sampleChange := by
    rw [Change.build, hblank, if_neg Bool.false_ne_true, Diff.parse_sample]
    rfl
  have hreceive : sampleRule.CanReceive Diff.sampleDiff 0 := by
    intro s hs _ h hh _
    revert h s
    decide +kernel
  obtain ⟨sh, e, hshare, he, _, hsections, _, hpaths, hfiles, _⟩ :=
    (share_spec hblank hbuild Diff.parse_sample compile_sampleRule 0).1 hreceive
  exact ⟨sh, e, hshare, he, hsections.length_eq.trans (by decide +kernel), hpaths.trans (by decide +kernel),
    hfiles.trans (by decide +kernel)⟩

def lateHunk (start : ℕ) : Hunk where
  oldStart := 1
  oldCount := 1
  newStart := start
  newCount := 2
  heading := []
  header := Hunk.formatHeader 1 1 start 2 []
  lines := [" c", "+a"]

def lateDiff (start : ℕ) : Diff where
  sections :=
    [{ header := ["diff --git a/x b/x"], hunks := [lateHunk start], oldPath := some "x", newPath := some "x" }]
  preamble := []
  endsWithNewline := true

def lateText (start : ℕ) : Text :=
  "diff --git a/x b/x\n@@ -1,1 +".toList ++ Text.ofNat start ++ ",2 @@\n c\n+a\n".toList

def lateChange (start : ℕ) : Change := ⟨lateText start, ["x"], .commit, none, none, []⟩

theorem readable_lateHunk {start : ℕ} (h : Numeral.isWritable start = true) : (lateHunk start).Readable := by
  have hone : Numeral.isWritable 1 = true := by decide +kernel
  have htwo : Numeral.isWritable 2 = true := by decide +kernel
  have hw : (lateHunk start).isWritable = true := Hunk.isWritable_iff.mpr ⟨hone, hone, h, htwo⟩
  have hplain : ∀ l ∈ ([" c", "+a"] : List Line), Diff.IsPlain l := by
    intro l hl
    rcases List.mem_pair.mp hl with rfl | rfl
    · exact ⟨by decide, by decide, by decide⟩
    · exact ⟨by decide, by decide, by decide⟩
  refine ⟨Diff.opensHunk_formatHeader 1 1 start 2 [], Diff.newline_notMem_formatHeader 1 1 start 2 (by simp), ?_,
    hplain⟩
  exact Diff.readHunk_formatHeader (a := 1) (b := 1) (c := start) (d := 2) rfl rfl rfl rfl hw rfl

theorem readable_lateDiff {start : ℕ} (h : Numeral.isWritable start = true) : (lateDiff start).Readable := by
  have hheader : Diff.readHeader "diff --git a/x b/x" [] =
      .ok { header := ["diff --git a/x b/x"], oldPath := some "x", newPath := some "x" } := rfl
  refine ⟨by simp [lateDiff], fun s hs => ?_⟩
  obtain rfl := List.mem_singleton.mp hs
  refine ⟨⟨"diff --git a/x b/x", [], rfl, by decide, by decide, by simp, hheader⟩, fun k hk => ?_⟩
  exact List.mem_singleton.mp hk ▸ readable_lateHunk h

theorem parse_lateText {start : ℕ} (h : Numeral.isWritable start = true) :
    Diff.parse (lateText start) = .ok (lateDiff start) := by
  have hread := readable_lateDiff h
  have hlines : (lateDiff start).allLines =
      (["diff --git a/x b/x", Hunk.formatHeader 1 1 start 2 [], " c", "+a"] : List Text) := rfl
  have hheader : Hunk.formatHeader 1 1 start 2 [] =
      "@@ -1,1 +".toList ++ (Text.ofNat start ++ ",2 @@".toList) := Diff.formatHeader_eq 1 1 start 2 []
  have hjoin : ∀ t : Text,
      Diff.linesText ["diff --git a/x b/x", "@@ -1,1 +".toList ++ (t ++ ",2 @@".toList), " c", "+a"] true =
        "diff --git a/x b/x\n@@ -1,1 +".toList ++ t ++ ",2 @@\n c\n+a\n".toList := by
    intro t
    simp [Diff.linesText, Text.joinLines, List.intercalate]
  have htext : (lateDiff start).serialize = lateText start := by
    rw [Diff.serialize_eq, hlines, hheader]
    exact hjoin _
  rw [← htext]
  exact hread.parse_serialize (hread.allLines_ne_nil (by simp [lateDiff])) (.inl rfl)

/-- A hunk that starts at the greatest number that can be written starts beyond it when a line is skipped. -/
theorem not_isWritable_lateHunk : ¬((lateHunk Numeral.greatest).slimmed 0).isWritable = true := by
  intro hw
  obtain ⟨_, _, hstart, _⟩ := Hunk.isWritable_iff.mp hw
  exact Numeral.not_isWritable_greatest_add_one hstart

theorem share_late :
    (lateText Numeral.greatest).isBlankText = false ∧
      Change.build (lateText Numeral.greatest) [] .commit none none [] = .ok (lateChange Numeral.greatest) ∧
      (lateChange Numeral.greatest).parsed = .ok (lateDiff Numeral.greatest) ∧
      Glob.Compile sampleRule.patterns ∧
      ¬∃ sh, share sampleRule (lateChange Numeral.greatest) (lateDiff Numeral.greatest) 0 = .ok sh := by
  have hparse := parse_lateText Numeral.isWritable_greatest
  have hlate : ∀ start, (lateText start).isBlankText = false ∧ (lateChange start).hasContent = true ∧
      (lateChange start).files = (lateDiff start).changedFiles := fun start => ⟨rfl, rfl, rfl⟩
  obtain ⟨hblank, hcontent, hfiles⟩ := hlate Numeral.greatest
  have hbuild : Change.build (lateText Numeral.greatest) [] .commit none none [] =
      .ok (lateChange Numeral.greatest) := by
    rw [Change.build, hblank, if_neg Bool.false_ne_true, hparse, Except.map, ← hfiles, lateChange]
  refine ⟨hblank, hbuild, hparse, compile_sampleRule, ?_⟩
  have hsent :
      ¬(sent sampleRule (lateChange Numeral.greatest) (lateDiff Numeral.greatest) 0).isWritable = true := by
    intro hw
    have hreceive := (isWritable_sent hfiles 0).mp hw
    exact not_isWritable_lateHunk (hreceive _ (List.mem_singleton.mpr rfl) (by rfl) _ (List.mem_singleton.mpr rfl) (by rfl))
  rintro ⟨sh, hsh⟩
  have hshare := share_eq compile_sampleRule hcontent (lateDiff Numeral.greatest) 0
  rw [if_neg hsent] at hshare
  cases hshare.symm.trans hsh

end Review

end RuleReview
