import RuleReview.Proofs.Diff.Window

/-! # What narrowing leaves

Narrowing a diff keeps its hunks with changes, each with the lines that the window keeps, and the sections that
have such hunks. It succeeds when the numbers of what is left can be written.
-/
namespace RuleReview

def Section.hasChanges (s : Section) : Bool := s.hunks.any Hunk.hasChanges

def Section.slimmed (s : Section) (n : ℕ) : Section :=
  { s with hunks := (s.hunks.filter Hunk.hasChanges).map (Hunk.slimmed · n) }

theorem Section.filterMap_slim? (s : Section) (n : ℕ) :
    s.hunks.filterMap (Hunk.slim? · n) = (s.slimmed n).hunks := by
  rw [Section.slimmed, ← List.filterMap_eq_map, List.filterMap_filter]
  rfl

theorem Section.hunks_slimmed_ne_nil_iff {s : Section} {n : ℕ} :
    (s.slimmed n).hunks ≠ [] ↔ s.hasChanges = true := by
  rw [Section.slimmed, ne_eq, List.map_eq_nil_iff, List.filter_eq_nil_iff, Section.hasChanges, List.any_eq_true]
  push Not
  rfl

theorem Section.slim?_eq (s : Section) (n : ℕ) :
    s.slim? n = if s.hasChanges then some (s.slimmed n) else none := by
  rw [Section.slim?, s.filterMap_slim? n]
  split
  · next hnil => rw [if_neg fun hc => Section.hunks_slimmed_ne_nil_iff.mpr hc hnil]
  · next hne =>
    rw [if_pos (Section.hunks_slimmed_ne_nil_iff.mp hne)]
    rfl

theorem Diff.sections_slim (d : Diff) (n : ℕ) :
    (d.slim n).sections = (d.sections.filter Section.hasChanges).map (Section.slimmed · n) := by
  rw [Diff.slim, Diff.withSections, ← List.filterMap_eq_map, List.filterMap_filter]
  exact List.filterMap_congr fun s _ => s.slim?_eq n

theorem Hunk.narrow_natCast (h : Hunk) (n : ℕ) :
    h.narrow n = if (h.slim? n).all Hunk.isWritable then .ok (h.slim? n) else .error (.numeral .unwritable) := by
  have hn : ¬((n : ℤ) < 0 ∧ h.hasChanges = true) := fun hneg => absurd hneg.1 (by omega)
  simp [Hunk.narrow, hn]

theorem Diff.narrow_natCast (d : Diff) (n : ℕ) :
    d.narrow n = if (d.slim n).isWritable then .ok (d.slim n) else .error (.numeral .unwritable) := by
  have hn : ¬ (n : ℤ) < 0 := Int.not_lt.mpr (Int.natCast_nonneg n)
  simp [Diff.narrow, hn]

theorem Diff.narrow_eq_ok {d e : Diff} {n : ℕ} :
    d.narrow n = .ok e ↔ (d.slim n).isWritable = true ∧ e = d.slim n := by
  rw [narrow_natCast]
  split
  · next hw => exact ⟨fun he => ⟨hw, (Except.ok.inj he).symm⟩, fun he => he.2 ▸ rfl⟩
  · next hw => simp [hw]

theorem Diff.nonneg_of_narrow {d e : Diff} {n : ℤ} (h : d.narrow n = .ok e) : 0 ≤ n := by
  rw [Diff.narrow] at h
  split at h
  · cases h
  · next hn => exact Int.not_lt.mp hn

theorem Hunk.isWritable_iff {h : Hunk} :
    h.isWritable = true ↔ Numeral.isWritable h.oldStart = true ∧ Numeral.isWritable h.oldCount = true ∧
      Numeral.isWritable h.newStart = true ∧ Numeral.isWritable h.newCount = true := by
  simp [Hunk.isWritable]

theorem Diff.isWritable_iff {d : Diff} :
    d.isWritable = true ↔ ∀ s ∈ d.sections, ∀ h ∈ s.hunks, h.isWritable = true := by
  simp [Diff.isWritable, List.all_eq_true]

theorem Hunk.hasChanges_slimmed (h : Hunk) (n : ℕ) : (h.slimmed n).hasChanges = h.hasChanges := by
  have hmem : ∀ l, (l ∈ (h.slimmed n).lines ∧ l.isChange = true) ↔ (l ∈ h.lines ∧ l.isChange = true) := by
    intro l
    rw [← List.mem_filter, ← List.mem_filter, Hunk.slimmed, filter_isChange_keptLines]
  rw [Bool.eq_iff_iff, Hunk.hasChanges, Hunk.hasChanges, List.any_eq_true, List.any_eq_true]
  exact exists_congr hmem

theorem Diff.isWritable_slim_iff {d : Diff} {n : ℕ} :
    (d.slim n).isWritable = true ↔
      ∀ s ∈ d.sections, ∀ h ∈ s.hunks, h.hasChanges = true → (h.slimmed n).isWritable = true := by
  rw [Diff.isWritable_iff, Diff.sections_slim]
  simp only [List.forall_mem_map, List.mem_filter, Section.slimmed, and_imp]
  constructor
  · intro hw s hs h hh hc
    exact hw s hs (List.any_eq_true.mpr ⟨h, hh, hc⟩) h hh hc
  · intro hw s hs _ h hh hc
    exact hw s hs h hh hc

end RuleReview
