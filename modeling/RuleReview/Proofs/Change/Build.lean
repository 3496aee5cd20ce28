import RuleReview.Change
import RuleReview.Proofs.Diff.Readable

/-! # The change of a text

A change is built from a text by reading it, unless the text is blank. A text with sections is not: the lines that open
them are in it.
-/
namespace RuleReview

theorem Diff.not_isBlankText_of_section {text : Text} {d : Diff} {s : Section} (hd : Diff.parse text = .ok d)
    (hs : s ∈ d.sections) : text.isBlankText = false := by
  obtain ⟨mark, extra, hheader⟩ := ((readable_of_parse hd).sections s hs).header
  obtain ⟨names, hnames⟩ := List.isPrefixOf_iff_prefix.mp hheader.opens
  have hmark : 'd' ∈ mark := by rw [← hnames]; exact List.mem_cons_self
  have hline : mark ∈ d.allLines := by
    refine List.mem_append_right _ (List.mem_flatMap.mpr ⟨s, hs, List.mem_append_left _ ?_⟩)
    rw [hheader.header]
    exact List.mem_cons_self
  have hmem : 'd' ∈ text := by
    rw [← linesText_of_parse hd, linesText, if_neg (by simpa using List.ne_nil_of_mem hline)]
    exact List.mem_append_left _ (Text.mem_joinLines hline hmark)
  rw [Text.isBlankText, List.all_eq_false]
  exact ⟨'d', hmem, by decide⟩

namespace Change
variable {text : Text} {names warnings : List Text} {strategy : Strategy} {base head : Option Text} {c : Change}

/-- A change of a text that is not blank has the paths of the sections of its text. -/
theorem build_eq_ok (hblank : text.isBlankText = false)
    (hc : Change.build text names strategy base head warnings = .ok c) :
    c.hasContent = true ∧ ∃ d, c.parsed = .ok d ∧ c.files = d.changedFiles := by
  rw [Change.build, hblank, if_neg Bool.false_ne_true] at hc
  obtain ⟨d, hd, rfl⟩ := map_eq_ok.mp hc
  refine ⟨?_, d, hd, rfl⟩
  cases text with
  | nil => cases hblank
  | cons _ _ => rfl

theorem exists_build (hblank : text.isBlankText = false) {d : Diff} (hd : Diff.parse text = .ok d)
    (names warnings : List Text) (strategy : Strategy) (base head : Option Text) :
    ∃ c, Change.build text names strategy base head warnings = .ok c ∧ c.parsed = .ok d ∧ c.hasContent = true ∧
      c.files = d.changedFiles := by
  have hbuild : Change.build text names strategy base head warnings =
      .ok ⟨text, d.changedFiles, strategy, base, head, warnings⟩ := by
    rw [Change.build, hblank, if_neg Bool.false_ne_true, hd]
    rfl
  exact ⟨_, hbuild, hd, (build_eq_ok hblank hbuild).1, rfl⟩

end Change

end RuleReview
