import Mathlib.Data.List.Sort
import RuleReview.Proofs.Diff.Narrowing
import RuleReview.Proofs.Review.Share

/-! # Exactly the lines of a window

What narrowing keeps is told by a rule that speaks of distances and of the line before a marker alone. The rule
fixes the narrowed hunk, its numbers included, so narrowing is nothing but the rule, as long as the numbers can be
written. No change is lost by it, and the window has no say in which hunks and sections are left.
-/
namespace RuleReview
variable {ls : List Line} {n i j : ℕ}

/-- The places that a window takes: those of lines at most `n` lines from a change, markers apart, and those of
markers right behind a line that is taken. -/
inductive InWindow (ls : List Line) (n : ℕ) : ℕ → Prop
  | near {i j : ℕ} {l : Line} (hl : ls[i]? = some l) (hm : l.isMarker = false) (hj : ChangeAt ls j)
      (hlo : i ≤ j + n) (hhi : j ≤ i + n) : InWindow ls n i
  | marker {i : ℕ} {l : Line} (hl : ls[i + 1]? = some l) (hm : l.isMarker = true) (hi : InWindow ls n i) :
      InWindow ls n (i + 1)

theorem keeps_of_inWindow (h : InWindow ls n i) : keeps ls n i = true := by
  induction h with
  | near hl hm hj hlo hhi =>
    rw [keeps_of_near hl hm]
    exact nearChange_iff.mpr ⟨_, hj, hlo, hhi⟩
  | marker hl hm _ ih => rw [keeps_marker hl hm, ih]

theorem inWindow_of_keeps (h : keeps ls n i = true) : InWindow ls n i := by
  induction i with
  | zero =>
    obtain ⟨l, hl, ⟨hm, hnear⟩ | ⟨_, k, hk, _⟩⟩ := keeps_iff.mp h
    · obtain ⟨j, hj, hlo, hhi⟩ := nearChange_iff.mp hnear
      exact .near hl hm hj hlo hhi
    · omega
  | succ i ih =>
    obtain ⟨l, hl, ⟨hm, hnear⟩ | ⟨hm, k, hk, hkeeps⟩⟩ := keeps_iff.mp h
    · obtain ⟨j, hj, hlo, hhi⟩ := nearChange_iff.mp hnear
      exact .near hl hm hj hlo hhi
    · obtain rfl : k = i := by omega
      exact .marker hl hm (ih hkeeps)

theorem mem_keptPlaces_iff_inWindow : i ∈ keptPlaces ls n ↔ InWindow ls n i := by
  rw [mem_keptPlaces]
  exact ⟨inWindow_of_keeps, keeps_of_inWindow⟩

theorem not_inWindow_zero {l : Line} (hl : ls[0]? = some l) (hm : l.isMarker = true) : ¬InWindow ls n 0 := by
  intro h
  cases h with
  | near hl' hm' _ _ _ =>
    obtain rfl : l = _ := Option.some.inj (hl.symm.trans hl')
    rw [hm] at hm'
    cases hm'

theorem pairwise_keptPlaces (ls : List Line) (n : ℕ) : (keptPlaces ls n).Pairwise (· < ·) :=
  List.pairwise_lt_range.filter _

namespace Hunk
variable {h k : Hunk}

/-- The hunk with the lines at some places, which are in order and of which `first` is the first one. -/
structure IsSelection (h : Hunk) (first : ℕ) (places : List ℕ) (k : Hunk) : Prop where
  ordered : places.Pairwise (· < ·)
  starts : places.head? = some first
  lines : k.lines.map some = places.map (h.lines[·]?)
  oldStart : k.oldStart = h.oldStart + (h.lines.take first).countP Line.inOld
  newStart : k.newStart = h.newStart + (h.lines.take first).countP Line.inNew
  oldCount : k.oldCount = k.lines.countP Line.inOld
  newCount : k.newCount = k.lines.countP Line.inNew
  heading : k.heading = h.heading
  header : k.header = formatHeader k.oldStart k.oldCount k.newStart k.newCount k.heading

/-- The hunk with exactly the lines that a window takes. -/
def IsWindow (h : Hunk) (n : ℕ) (k : Hunk) : Prop :=
  ∃ first places, (∀ i, i ∈ places ↔ InWindow h.lines n i) ∧ h.IsSelection first places k

theorem IsSelection.unique {g : Hunk} {first second : ℕ} {places others : List ℕ} (hk : h.IsSelection first places k)
    (hg : h.IsSelection second others g) (hmem : ∀ i, i ∈ places ↔ i ∈ others) : k = g := by
  obtain rfl : places = others :=
    ((List.perm_ext_iff_of_nodup hk.ordered.nodup hg.ordered.nodup).mpr hmem).eq_of_pairwise
      (fun a b _ _ hab hba => absurd (hab.trans hba) (lt_irrefl a)) hk.ordered hg.ordered
  obtain rfl : first = second := Option.some.inj (hk.starts.symm.trans hg.starts)
  have hlines : k.lines = g.lines :=
    List.map_injective_iff.mpr (Option.some_injective Line) (hk.lines.trans hg.lines.symm)
  have hos := hk.oldStart.trans hg.oldStart.symm
  have hns := hk.newStart.trans hg.newStart.symm
  have hoc : k.oldCount = g.oldCount := by rw [hk.oldCount, hg.oldCount, hlines]
  have hnc : k.newCount = g.newCount := by rw [hk.newCount, hg.newCount, hlines]
  have hhead := hk.heading.trans hg.heading.symm
  have hheader : k.header = g.header := by rw [hk.header, hg.header, hos, hoc, hns, hnc, hhead]
  cases k
  cases g
  simp_all

theorem isWindow_slimmed (hc : h.hasChanges = true) (n : ℕ) : h.IsWindow n (h.slimmed n) := by
  obtain ⟨j, hj⟩ := hasChanges_iff.mp hc
  refine ⟨firstKept h.lines n, keptPlaces h.lines n, fun i => mem_keptPlaces_iff_inWindow,
    pairwise_keptPlaces h.lines n, head?_keptPlaces n hj, ?_, rfl, rfl, rfl, rfl, rfl, rfl⟩
  have hlines : (h.slimmed n).lines = (keptPlaces h.lines n).map (h.lines.getD · []) := keptLines_eq_map h.lines n
  rw [hlines, List.map_map]
  refine List.map_congr_left fun i hi => ?_
  obtain ⟨l, hl, _⟩ := keeps_iff.mp (mem_keptPlaces.mp hi)
  simp [hl]

/-- A window is what narrowing makes of a hunk with changes, and a hunk without any has none. -/
theorem isWindow_iff : h.IsWindow n k ↔ h.hasChanges = true ∧ k = h.slimmed n := by
  constructor
  · rintro ⟨first, places, hmem, hk⟩
    have hc : h.hasChanges = true := by
      have hfirst : first ∈ places := List.mem_of_mem_head? hk.starts
      obtain ⟨j, hj, _⟩ := exists_changeAt_of_keeps (keeps_of_inWindow ((hmem first).mp hfirst))
      exact hasChanges_iff.mpr ⟨j, hj⟩
    obtain ⟨first', places', hmem', hslimmed⟩ := isWindow_slimmed hc n
    exact ⟨hc, hk.unique hslimmed fun i => (hmem i).trans (hmem' i).symm⟩
  · rintro ⟨hc, rfl⟩
    exact isWindow_slimmed hc n

theorem hasChanges_eq_false_iff : h.hasChanges = false ↔ ∀ l ∈ h.lines, l.kind = .context := by
  simp [hasChanges, Line.isChange]

theorem narrow_of_hasChanges (hc : h.hasChanges = true) (n : ℕ) :
    h.narrow n = if (h.slimmed n).isWritable then .ok (some (h.slimmed n)) else .error (.numeral .unwritable) := by
  rw [narrow_natCast, slim?, if_pos hc, Option.all_some]

theorem narrow_of_not_hasChanges (hc : h.hasChanges = false) (n : ℕ) : h.narrow n = .ok none := by
  rw [narrow_natCast, slim?, hc]
  rfl

theorem narrow_eq_none_iff : h.narrow n = .ok none ↔ h.hasChanges = false := by
  refine ⟨fun hnone => ?_, fun hc => narrow_of_not_hasChanges hc n⟩
  by_contra hc
  rw [Bool.not_eq_false] at hc
  rw [narrow_of_hasChanges hc] at hnone
  split at hnone <;> cases hnone

end Hunk

/-- The section with the windows of its hunks that have changes. -/
structure Section.IsWindow (s : Section) (n : ℕ) (t : Section) : Prop where
  facts : { t with hunks := [] } = { s with hunks := [] }
  hunks : List.Forall₂ (fun h k => h.IsWindow n k) (s.hunks.filter Hunk.hasChanges) t.hunks

theorem Section.isWindow_slimmed (s : Section) (n : ℕ) : s.IsWindow n (s.slimmed n) := by
  refine ⟨rfl, List.forall₂_map_right_iff.mpr (List.forall₂_same.mpr fun h hh => ?_)⟩
  exact Hunk.isWindow_slimmed (List.mem_filter.mp hh).2 n

namespace Diff
variable {d e : Diff}

theorem filter_isChange_lines_slim (d : Diff) (n : ℕ) :
    (d.slim n).lines.filter Line.isChange = d.lines.filter Line.isChange := by
  have hsection : ∀ s : Section, (s.slimmed n).changes = s.changes := fun s => (s.narrows_slimmed n).changes_eq
  have hnone : ∀ s : Section, ¬s.hasChanges = true → s.changes = [] := by
    intro s hs
    have hhunks : s.hunks.filter Hunk.hasChanges = [] := by
      rw [List.filter_eq_nil_iff]
      exact fun h hh hc => hs (List.any_eq_true.mpr ⟨h, hh, hc⟩)
    rw [Section.changes, ← changes_filter_hasChanges, hhunks]
    rfl
  have hchanges : ∀ d : Diff, d.lines.filter Line.isChange = d.sections.flatMap Section.changes := fun d =>
    List.filter_flatMap
  rw [hchanges, hchanges, sections_slim]
  induction d.sections with
  | nil => rfl
  | cons s ss ih =>
    by_cases hs : s.hasChanges = true
    · rw [List.filter_cons_of_pos hs, List.map_cons, List.flatMap_cons, List.flatMap_cons, hsection, ih]
    · rw [List.filter_cons_of_neg hs, List.flatMap_cons, hnone s hs, List.nil_append, ih]

theorem countP_lines_slim (d : Diff) (n : ℕ) {p : Line → Bool} (hp : ∀ l, p l = true → l.isChange = true) :
    (d.slim n).lines.countP p = d.lines.countP p := by
  have hcount : ∀ ls : List Line, ls.countP p = (ls.filter Line.isChange).countP p := by
    intro ls
    rw [List.countP_filter]
    refine List.countP_congr fun l _ => ?_
    rw [Bool.and_eq_true]
    exact ⟨fun hl => ⟨hl, hp l hl⟩, And.left⟩
  rw [hcount, filter_isChange_lines_slim, ← hcount]

theorem addedLines_slim (d : Diff) (n : ℕ) : (d.slim n).addedLines = d.addedLines :=
  countP_lines_slim d n fun l hl => by rw [Line.isChange, beq_iff_eq.mp hl]; rfl

theorem removedLines_slim (d : Diff) (n : ℕ) : (d.slim n).removedLines = d.removedLines :=
  countP_lines_slim d n fun l hl => by rw [Line.isChange, beq_iff_eq.mp hl]; rfl

theorem exists_narrow_iff_hunks :
    (∃ e, d.narrow n = .ok e) ↔ ∀ s ∈ d.sections, ∀ h ∈ s.hunks, ∃ r, h.narrow n = .ok r := by
  have hhunk : ∀ h : Hunk, (∃ r, h.narrow n = .ok r) ↔ (h.hasChanges = true → (h.slimmed n).isWritable = true) := by
    intro h
    cases hc : h.hasChanges with
    | false => simp [Hunk.narrow_of_not_hasChanges hc]
    | true =>
      rw [Hunk.narrow_of_hasChanges hc]
      cases (h.slimmed n).isWritable <;> simp
  simp only [hhunk, narrow_eq_ok, exists_and_left, exists_eq, and_true]
  exact isWritable_slim_iff

/-- Narrowing a hunk gives nothing exactly when it has no added or removed line, and else the one hunk that is its
window, unless a number of that cannot be written. A diff is narrowed hunk by hunk: what is left are the hunks with
changes of the sections with such hunks, whatever the window is, with as many added and removed lines as before. -/
theorem narrow_exact (d : Diff) (n : ℕ) :
    (∀ h : Hunk,
      (h.narrow n = .ok none ↔ ∀ l ∈ h.lines, l.kind = .context) ∧
      (∀ l, h.lines[0]? = some l → l.isMarker = true → ¬InWindow h.lines n 0) ∧
      ((∃ l ∈ h.lines, l.kind ≠ .context) →
        ∃ k, (∀ g, h.IsWindow n g ↔ g = k) ∧
          h.narrow n = if k.isWritable then .ok (some k) else .error (.numeral .unwritable))) ∧
    ((∃ e, d.narrow n = .ok e) ↔ ∀ s ∈ d.sections, ∀ h ∈ s.hunks, ∃ r, h.narrow n = .ok r) ∧
    ∀ e, d.narrow n = .ok e →
      e.addedLines = d.addedLines ∧ e.removedLines = d.removedLines ∧
      List.Forall₂ (fun s t => s.IsWindow n t) (d.sections.filter Section.hasChanges) e.sections := by
  refine ⟨fun h => ⟨?_, fun l hl hm => not_inWindow_zero hl hm, fun hchange => ?_⟩, exists_narrow_iff_hunks,
    fun e he => ?_⟩
  · rw [Hunk.narrow_eq_none_iff, Hunk.hasChanges_eq_false_iff]
  · have hc : h.hasChanges = true := by
      rw [← Bool.not_eq_false, Hunk.hasChanges_eq_false_iff]
      push Not
      exact hchange
    refine ⟨h.slimmed n, fun g => ?_, Hunk.narrow_of_hasChanges hc n⟩
    rw [Hunk.isWindow_iff]
    exact and_iff_right hc
  · obtain ⟨_, rfl⟩ := narrow_eq_ok.mp he
    refine ⟨addedLines_slim d n, removedLines_slim d n, ?_⟩
    rw [sections_slim]
    exact List.forall₂_map_right_iff.mpr (List.forall₂_same.mpr fun s _ => s.isWindow_slimmed n)

/-- A hunk with two lines on each side of its change and a marker at its end. -/
def tailHunk : Hunk where
  oldStart := 1
  oldCount := 4
  newStart := 1
  newCount := 5
  heading := " f"
  header := "@@ -1,4 +1,5 @@ f"
  lines := [" a", " b", "+c", " d", " e", "\\ No newline"]

theorem narrow_exact_tailHunk :
    (∃ k, tailHunk.IsWindow 1 k ∧ tailHunk.narrow 1 = .ok (some k) ∧
      k.lines = ([" b", "+c", " d"] : List Line) ∧ k.header = "@@ -2,2 +2,3 @@ f".toList) ∧
    ∃ e, sampleDiff.narrow 1 = .ok e ∧ e.addedLines = 2 ∧ e.removedLines = 2 ∧ e.sections.length = 2 := by
  obtain ⟨hhunk, -, hdiff⟩ := narrow_exact sampleDiff 1
  constructor
  · obtain ⟨-, -, hchange⟩ := hhunk tailHunk
    obtain ⟨k, hk, hnarrow⟩ := hchange ⟨"+c", by decide +kernel, by decide⟩
    have hwindow : tailHunk.IsWindow 1 (tailHunk.slimmed 1) := Hunk.isWindow_slimmed (by decide +kernel) 1
    obtain rfl : tailHunk.slimmed 1 = k := (hk _).mp hwindow
    have hw : (tailHunk.slimmed 1).isWritable = true := by decide +kernel
    exact ⟨_, hwindow, hnarrow.trans (if_pos hw), by decide +kernel, by decide +kernel⟩
  · have hnarrow : sampleDiff.narrow 1 = .ok (sampleDiff.slim 1) := narrow_eq_ok.mpr ⟨by decide +kernel, rfl⟩
    obtain ⟨hadded, hremoved, hsections⟩ := hdiff _ hnarrow
    exact ⟨_, hnarrow, hadded.trans (by decide +kernel), hremoved.trans (by decide +kernel),
      hsections.length_eq.symm.trans (by decide +kernel)⟩

/-- A hunk with a change that cannot be narrowed, since its start would be too great. -/
theorem narrow_lateHunk :
    Diff.parse (Review.lateText Numeral.greatest) = .ok (Review.lateDiff Numeral.greatest) ∧
      Review.lateHunk Numeral.greatest ∈ (Review.lateDiff Numeral.greatest).sections.flatMap Section.hunks ∧
      (∃ l ∈ (Review.lateHunk Numeral.greatest).lines, l.kind ≠ .context) ∧
      (Review.lateHunk Numeral.greatest).narrow (0 : ℕ) = .error (.numeral .unwritable) := by
  have hc : (Review.lateHunk Numeral.greatest).hasChanges = true := rfl
  refine ⟨Review.parse_lateText Numeral.isWritable_greatest, List.mem_singleton.mpr rfl,
    ⟨"+a", List.mem_cons_of_mem _ (List.mem_singleton.mpr rfl), by decide⟩, ?_⟩
  rw [Hunk.narrow_of_hasChanges hc, if_neg Review.not_isWritable_lateHunk]

end Diff

end RuleReview
