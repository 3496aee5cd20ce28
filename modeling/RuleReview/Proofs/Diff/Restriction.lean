import RuleReview.Proofs.Review.Share

/-! # Restricting and narrowing

A diff is restricted by the paths of its sections and narrowed hunk by hunk, and the preamble stays as long as some
section does. So the two go together in either order, and a restriction depends on its paths as a set. But numbers
that are too long to be written keep a diff from being narrowed even where their sections would be left out.
-/
namespace RuleReview
variable {A B C : List Text} {n : ℕ}

theorem Section.isAmong_iff {s : Section} : s.isAmong A = true ↔ ∃ path ∈ A, s.path = some path := by
  rw [Section.isAmong, Option.any_eq_true]
  simp only [List.contains_iff_mem]
  exact exists_congr fun path => and_comm

/-- A section has one path at most, so that it is among two sets exactly when its path is in both. -/
theorem Section.isAmong_inter {s : Section} (hC : ∀ path, path ∈ C ↔ path ∈ A ∧ path ∈ B) :
    s.isAmong C = (s.isAmong A && s.isAmong B) := by
  rw [Section.isAmong, Section.isAmong, Section.isAmong]
  cases s.path with
  | none => rfl
  | some path =>
    rw [Option.any_some, Option.any_some, Option.any_some, Bool.eq_iff_iff, Bool.and_eq_true]
    simp only [List.contains_iff_mem]
    exact hC path

namespace Diff
variable {d e : Diff}

/-- Sections of sections are sections of the whole; without any of the first there are none of the second. -/
theorem withSections_withSections (d : Diff) {ss ts : List Section} (h : ss = [] → ts = []) :
    (d.withSections ss).withSections ts = d.withSections ts := by
  rw [withSections, withSections, withSections]
  dsimp only
  cases ss with
  | nil => rw [h rfl]; rfl
  | cons s ss => rfl

theorem withSections_self (hne : d.sections ≠ []) : d.withSections d.sections = d := by
  rw [withSections, List.isEmpty_eq_false_iff.mpr hne]
  rfl

theorem slim_eq (d : Diff) (n : ℕ) :
    d.slim n = d.withSections ((d.sections.filter Section.hasChanges).map (Section.slimmed · n)) := by
  rw [← sections_slim]
  rfl

theorem restrict_restrict (d : Diff) (hC : ∀ path, path ∈ C ↔ path ∈ A ∧ path ∈ B) :
    (d.restrict A).restrict B = d.restrict C := by
  have hsections : (d.sections.filter (Section.isAmong A)).filter (Section.isAmong B) =
      d.sections.filter (Section.isAmong C) := by
    rw [List.filter_filter]
    exact List.filter_congr fun s _ => (Bool.and_comm _ _).trans (Section.isAmong_inter hC).symm
  have hnone : d.sections.filter (Section.isAmong A) = [] → d.sections.filter (Section.isAmong C) = [] := by
    intro hnil
    rw [← hsections, hnil, List.filter_nil]
  calc (d.restrict A).restrict B
      = (d.restrict A).withSections (d.sections.filter (Section.isAmong C)) := congrArg _ hsections
    _ = d.restrict C := d.withSections_withSections hnone

/-- What is left of a diff does not depend on whether it is restricted or narrowed first. -/
theorem slim_restrict (d : Diff) (A : List Text) (n : ℕ) : (d.restrict A).slim n = (d.slim n).restrict A := by
  let kept := d.sections.filter fun s => s.isAmong A && s.hasChanges
  have hfirst : (d.sections.filter (Section.isAmong A)).filter Section.hasChanges = kept := by
    rw [List.filter_filter]
    exact List.filter_congr fun s _ => Bool.and_comm _ _
  have hlast : ((d.sections.filter Section.hasChanges).map (Section.slimmed · n)).filter (Section.isAmong A) =
      kept.map (Section.slimmed · n) := by
    rw [List.filter_map, List.filter_filter]
    rfl
  have hnarrow : (d.restrict A).slim n = d.withSections (kept.map (Section.slimmed · n)) := by
    rw [slim_eq, ← hfirst]
    refine d.withSections_withSections fun hnil => ?_
    have hnone : (d.restrict A).sections = [] := hnil
    rw [hnone]
    rfl
  have hrestrict : (d.slim n).restrict A = d.withSections (kept.map (Section.slimmed · n)) := by
    rw [restrict, sections_slim, hlast, slim_eq]
    refine d.withSections_withSections fun hnil => ?_
    rw [← hlast, hnil, List.filter_nil]
  rw [hnarrow, hrestrict]

theorem isWritable_restrict (hw : d.isWritable = true) (A : List Text) : (d.restrict A).isWritable = true := by
  rw [isWritable_iff] at hw ⊢
  exact fun s hs => hw s (List.mem_of_mem_filter hs)

theorem narrow_restrict (he : d.narrow n = .ok e) (A : List Text) : (d.restrict A).narrow n = .ok (e.restrict A) := by
  obtain ⟨hw, rfl⟩ := narrow_eq_ok.mp he
  rw [← slim_restrict]
  exact narrow_eq_ok.mpr ⟨slim_restrict d A n ▸ isWritable_restrict hw A, rfl⟩

theorem exists_narrow_iff :
    (∃ e, d.narrow n = .ok e) ↔
      ∀ s ∈ d.sections, ∀ h ∈ s.hunks, h.hasChanges = true → (h.slimmed n).isWritable = true := by
  simp only [narrow_eq_ok, exists_and_left, exists_eq, and_true]
  exact isWritable_slim_iff

theorem restrict_all (hne : d.sections ≠ []) (hpath : ∀ s ∈ d.sections, s.path.isSome = true)
    (hC : ∀ path, path ∈ C ↔ path ∈ d.changedFiles) : d.restrict C = d := by
  have hsections : d.sections.filter (Section.isAmong C) = d.sections := by
    rw [List.filter_eq_self]
    intro s hs
    obtain ⟨path, hsp⟩ := Option.isSome_iff_exists.mp (hpath s hs)
    have hmem : path ∈ d.changedFiles := by
      rw [changedFiles, List.mem_eraseDups]
      exact List.mem_filterMap.mpr ⟨s, hs, hsp⟩
    exact Section.isAmong_iff.mpr ⟨path, (hC path).mpr hmem, hsp⟩
  rw [restrict, hsections, withSections_self hne]

/-- Restricting twice is restricting to the paths in both sets, and to all paths of a diff with sections that all have
one is leaving it as it is. Restricting and narrowing leave the same in either order, preamble and end included; only,
a diff with numbers that are too long to be written cannot be narrowed before it is restricted. -/
theorem restrict_laws (d : Diff) (A B : List Text) (n : ℕ) :
    (∀ C, (∀ path, path ∈ C ↔ path ∈ A ∧ path ∈ B) → (d.restrict A).restrict B = d.restrict C) ∧
    (d.restrict A).slim n = (d.slim n).restrict A ∧
    (∀ e, d.narrow n = .ok e → (d.restrict A).narrow n = .ok (e.restrict A)) ∧
    (∀ e, (d.restrict A).narrow n = .ok e → e = (d.slim n).restrict A) ∧
    ((∃ e, d.narrow n = .ok e) ↔
      ∀ s ∈ d.sections, ∀ h ∈ s.hunks, h.hasChanges = true → (h.slimmed n).isWritable = true) ∧
    (d.sections ≠ [] → (∀ s ∈ d.sections, s.path.isSome = true) →
      ∀ C, (∀ path, path ∈ C ↔ path ∈ d.changedFiles) → d.restrict C = d) := by
  refine ⟨fun C hC => restrict_restrict d hC, slim_restrict d A n, fun e he => narrow_restrict he A, fun e he => ?_,
    exists_narrow_iff, fun hne hpath C hC => restrict_all hne hpath hC⟩
  rw [← slim_restrict]
  exact (narrow_eq_ok.mp he).2

theorem restrict_laws_sample :
    (sampleDiff.restrict ["x", "y"]).restrict ["y"] = sampleDiff.restrict ["y"] ∧
      (∃ e, sampleDiff.narrow 0 = .ok e ∧ (sampleDiff.restrict ["x", "y"]).narrow 0 = .ok (e.restrict ["x", "y"])) ∧
      sampleDiff.restrict ["y", "x"] = sampleDiff := by
  have hnarrow : sampleDiff.narrow 0 = .ok (sampleDiff.slim 0) := narrow_eq_ok.mpr ⟨by decide +kernel, rfl⟩
  have hfiles : sampleDiff.changedFiles = (["x", "y"] : List Text) := by decide +kernel
  obtain ⟨hboth, -, hnarrowed, -, -, hall⟩ := restrict_laws sampleDiff ["x", "y"] ["y"] 0
  refine ⟨hboth _ fun path => ?_, ⟨_, hnarrow, hnarrowed _ hnarrow⟩, ?_⟩
  · exact ⟨fun h => ⟨List.mem_cons_of_mem _ h, h⟩, And.right⟩
  · refine hall (by decide +kernel) (by decide +kernel) _ fun path => ?_
    rw [hfiles, List.mem_pair, List.mem_pair]
    exact or_comm

/-- The part of the diff without its section is narrowed to nothing, but the diff cannot be narrowed first. -/
theorem not_narrow_late :
    Diff.parse (Review.lateText Numeral.greatest) = .ok (Review.lateDiff Numeral.greatest) ∧
      ((Review.lateDiff Numeral.greatest).restrict []).narrow 0 = .ok ⟨[], [], true⟩ ∧
      ¬∃ e, ((Review.lateDiff Numeral.greatest).narrow 0).map (Diff.restrict · []) = .ok e := by
  have hnothing : ∀ start, ((Review.lateDiff start).restrict []).narrow 0 = .ok ⟨[], [], true⟩ := fun start => rfl
  refine ⟨Review.parse_lateText Numeral.isWritable_greatest, hnothing _, ?_⟩
  rintro ⟨e, he⟩
  obtain ⟨p, hp, -⟩ := map_eq_ok.mp he
  exact Review.not_isWritable_lateHunk <| exists_narrow_iff.mp ⟨p, hp⟩ _ (List.mem_singleton.mpr rfl)
    (Review.lateHunk Numeral.greatest) (List.mem_singleton.mpr rfl) (by rfl)

end Diff

end RuleReview
