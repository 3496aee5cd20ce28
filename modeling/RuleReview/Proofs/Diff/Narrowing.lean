import RuleReview.Proofs.Diff.Readable
import RuleReview.Proofs.Diff.Slim

/-! # Narrowing a diff twice

The lines between two kept lines that are neighbours now were all far from every change, but for one marker at
most. So a second window reaches over such a gap only as far as the first one was kept wide, and narrowing twice
is narrowing once to the smaller window.
-/
namespace RuleReview
variable {ls : List Line} {n m i j k : ℕ} {l : Line}

/-- No two markers stand next to each other. -/
def MarkersApart (ls : List Line) : Prop := ls.IsChain fun k l => ¬(k.isMarker = true ∧ l.isMarker = true)

theorem MarkersApart.isMarker_eq_false {k : Line} (h : MarkersApart ls) (hk : ls[i]? = some k)
    (hl : ls[i + 1]? = some l) (hm : l.isMarker = true) : k.isMarker = false := by
  obtain ⟨hi, rfl⟩ := List.getElem?_eq_some_iff.mp hk
  obtain ⟨hi1, rfl⟩ := List.getElem?_eq_some_iff.mp hl
  have hpair := List.isChain_iff_getElem.mp h i hi1
  by_contra hm'
  exact hpair ⟨by simpa using hm', hm⟩

/-- How many lines before a place are kept. -/
abbrev keptRank (ls : List Line) (n i : ℕ) : ℕ := rank (keeps ls n) i

theorem filterMap_eq_map_of_keeps {ps : List ℕ} (h : ∀ i ∈ ps, keeps ls n i = true) :
    ps.filterMap (ls[·]?) = ps.map (ls.getD · []) := by
  rw [← List.filterMap_eq_map]
  refine List.filterMap_congr fun i hi => ?_
  obtain ⟨l, hl, _⟩ := keeps_iff.mp (h i hi)
  simp [hl]

theorem keptLines_eq_map (ls : List Line) (n : ℕ) : keptLines ls n = (keptPlaces ls n).map (ls.getD · []) :=
  filterMap_eq_map_of_keeps fun _ => mem_keptPlaces.mp

theorem getElem?_keptLines (h : keeps ls n i = true) : (keptLines ls n)[keptRank ls n i]? = ls[i]? := by
  have hplace : (keptPlaces ls n)[keptRank ls n i]? = some i := getElem?_filter_range (lt_length_of_keeps h) h
  obtain ⟨l, hl, _⟩ := keeps_iff.mp h
  simp [keptLines_eq_map, hplace, hl]

theorem length_keptLines (ls : List Line) (n : ℕ) : (keptLines ls n).length = keptRank ls n ls.length := by
  rw [keptLines_eq_map, List.length_map]
  exact length_filter_range _ _

theorem exists_keeps_of_lt (h : i < (keptLines ls n).length) : ∃ j, keeps ls n j = true ∧ keptRank ls n j = i := by
  rw [length_keptLines, ← List.mem_range, ← map_rank_filter_range] at h
  obtain ⟨j, hj, rfl⟩ := List.mem_map.mp h
  exact ⟨j, (List.mem_filter.mp hj).2, rfl⟩

/-- Before a change all lines of the window are kept, but for a marker at its very end. -/
theorem keeps_before (ha : MarkersApart ls) (hj : ChangeAt ls j) (hkj : k + 1 < j) (hn : j < k + 1 + n) :
    keeps ls n (k + 1) = true := by
  obtain ⟨c, hc, hchange⟩ := hj
  have hlen : j < ls.length := (List.getElem?_eq_some_iff.mp hc).1
  have hl : ls[k + 1]? = some ls[k + 1] := List.getElem?_eq_getElem (by omega)
  by_cases hm : ls[k + 1].isMarker = true
  · have hp : ls[k]? = some ls[k] := List.getElem?_eq_getElem (by omega)
    rw [keeps_marker hl hm, keeps_of_near hp (ha.isMarker_eq_false hp hl hm)]
    exact nearChange_iff.mpr ⟨j, ⟨c, hc, hchange⟩, by omega, by omega⟩
  · rw [keeps_of_near hl (by simpa using hm)]
    exact nearChange_iff.mpr ⟨j, ⟨c, hc, hchange⟩, by omega, by omega⟩

theorem keeps_after (hj : ChangeAt ls j) (hk : k ≤ n) (hlen : j + k < ls.length) : keeps ls n (j + k) = true := by
  induction k with
  | zero => exact keeps_of_changeAt n hj
  | succ k ih =>
    have hl : ls[j + (k + 1)]? = some ls[j + (k + 1)] := List.getElem?_eq_getElem hlen
    by_cases hm : ls[j + (k + 1)].isMarker = true
    · have hstep : keeps ls n (j + k + 1) = keeps ls n (j + k) := keeps_marker hl hm
      rw [← Nat.add_assoc, hstep]
      exact ih (by omega) (by omega)
    · rw [keeps_of_near hl (by simpa using hm)]
      exact nearChange_iff.mpr ⟨j, hj, by omega, by omega⟩

/-- A change that a smaller window reaches among the kept lines was as near among all lines. -/
theorem le_of_rank_le (ha : MarkersApart ls) (hmn : m < n) (hi : keeps ls n i = true) (hj : ChangeAt ls j)
    (hlo : keptRank ls n i ≤ keptRank ls n j + m) (hhi : keptRank ls n j ≤ keptRank ls n i + m) :
    i ≤ j + m ∧ j ≤ i + m := by
  constructor
  · by_contra hgap
    have hi' := lt_length_of_keeps hi
    have hall : keptRank ls n (j + (m + 1)) = keptRank ls n j + (m + 1) :=
      rank_add_of_forall fun k hk => keeps_after hj (by omega) (by omega)
    have hle : keptRank ls n (j + (m + 1)) ≤ keptRank ls n i := rank_mono _ (by omega)
    omega
  · by_contra hgap
    have hall : keptRank ls n (j - m + m) = keptRank ls n (j - m) + m := by
      refine rank_add_of_forall fun k hk => ?_
      obtain ⟨q, hq⟩ : ∃ q, j - m + k = q + 1 := ⟨j - m + k - 1, by omega⟩
      rw [hq]
      exact keeps_before ha hj (by omega) (by omega)
    have hlt : keptRank ls n i < keptRank ls n (j - m) := rank_lt_of_kept hi (by omega)
    rw [Nat.sub_add_cancel (by omega)] at hall
    omega

theorem rank_le_rank_add (h : i ≤ j + m) : keptRank ls n i ≤ keptRank ls n j + m :=
  (rank_mono _ h).trans (rank_add_le _ j m)

theorem nearChange_keptLines (ha : MarkersApart ls) (hi : keeps ls n i = true) (hl : ls[i]? = some l)
    (hm : l.isMarker = false) :
    nearChange (keptLines ls n) m (keptRank ls n i) = nearChange ls (min n m) i := by
  rw [Bool.eq_iff_iff, nearChange_iff, nearChange_iff]
  constructor
  · rintro ⟨b, ⟨c, hb, hc⟩, hlo, hhi⟩
    obtain ⟨j, hj, rfl⟩ := exists_keeps_of_lt (List.getElem?_eq_some_iff.mp hb).1
    rw [getElem?_keptLines hj] at hb
    rcases Nat.lt_or_ge m n with hmn | hnm
    · have hdist := le_of_rank_le ha hmn hi ⟨c, hb, hc⟩ hlo hhi
      rw [Nat.min_eq_right hmn.le]
      exact ⟨j, ⟨c, hb, hc⟩, hdist⟩
    · rw [Nat.min_eq_left hnm]
      rw [keeps_of_near hl hm] at hi
      exact nearChange_iff.mp hi
  · rintro ⟨j, hj, hlo, hhi⟩
    obtain ⟨c, hc, hchange⟩ := hj
    have hkept : (keptLines ls n)[keptRank ls n j]? = some c :=
      (getElem?_keptLines (keeps_of_changeAt n ⟨c, hc, hchange⟩)).trans hc
    exact ⟨keptRank ls n j, ⟨c, hkept, hchange⟩, rank_le_rank_add (by omega), rank_le_rank_add (by omega)⟩

theorem keeps_keptLines (ha : MarkersApart ls) (m : ℕ) (hi : keeps ls n i = true) :
    keeps (keptLines ls n) m (keptRank ls n i) = keeps ls (min n m) i := by
  induction i with
  | zero =>
    obtain ⟨l, hl, ⟨hm, _⟩ | ⟨_, k, hk, _⟩⟩ := keeps_iff.mp hi
    · rw [keeps_of_near ((getElem?_keptLines hi).trans hl) hm, keeps_of_near hl hm,
        nearChange_keptLines ha hi hl hm]
    · omega
  | succ i ih =>
    obtain ⟨l, hl, ⟨hm, _⟩ | ⟨hm, k, hk, hkeeps⟩⟩ := keeps_iff.mp hi
    · rw [keeps_of_near ((getElem?_keptLines hi).trans hl) hm, keeps_of_near hl hm,
        nearChange_keptLines ha hi hl hm]
    · obtain rfl : k = i := by omega
      have hrank : keptRank ls n (k + 1) = keptRank ls n k + 1 := rank_succ_of_kept hkeeps
      have hkept := (getElem?_keptLines hi).trans hl
      rw [hrank] at hkept ⊢
      rw [keeps_marker hkept hm, keeps_marker hl hm, ih hkeeps]

theorem keptPlaces_keptLines (ha : MarkersApart ls) (n m : ℕ) :
    keptPlaces (keptLines ls n) m = (keptPlaces ls (min n m)).map (keptRank ls n) := by
  rw [keptPlaces, length_keptLines, ← map_rank_filter_range, List.filter_map, List.filter_filter, keptPlaces]
  refine congrArg _ (List.filter_congr fun i _ => ?_)
  rw [Function.comp_apply]
  cases hi : keeps ls n i with
  | true => rw [keeps_keptLines ha m hi, Bool.and_true]
  | false =>
    rw [Bool.and_false, eq_comm, ← Bool.not_eq_true]
    intro h
    rw [keeps_mono (Nat.min_le_left n m) h] at hi
    cases hi

theorem keptLines_keptLines (ha : MarkersApart ls) (n m : ℕ) :
    keptLines (keptLines ls n) m = keptLines ls (min n m) := by
  rw [keptLines, keptPlaces_keptLines ha, List.filterMap_map, keptLines]
  refine List.filterMap_congr fun i hi => ?_
  exact getElem?_keptLines (keeps_mono (Nat.min_le_left n m) (mem_keptPlaces.mp hi))

/-- From the first line that a window keeps, all lines are kept up to the first one that a smaller window keeps. -/
theorem keeps_between (hj : ChangeAt ls j) (hlo : firstKept ls n ≤ i) (hhi : i < firstKept ls m) :
    keeps ls n i = true := by
  have hchange : ∀ {c}, ChangeAt ls c → firstKept ls m ≤ c := by
    intro c hc
    by_contra hlt
    have hnot := (firstKept_spec m hj).2 c (by omega)
    rw [keeps_of_changeAt m hc] at hnot
    cases hnot
  induction i, hlo using Nat.le_induction with
  | base => exact (firstKept_spec n hj).1
  | succ i hi ih =>
    have hkeeps := ih (by omega)
    obtain ⟨c, hc, hreach⟩ := exists_changeAt_of_keeps hkeeps
    have hfar := hchange hc
    obtain ⟨x, hx, hxc⟩ := hc
    have hlen : c < ls.length := (List.getElem?_eq_some_iff.mp hx).1
    have hl : ls[i + 1]? = some ls[i + 1] := List.getElem?_eq_getElem (by omega)
    by_cases hm : ls[i + 1].isMarker = true
    · rw [keeps_marker hl hm, hkeeps]
    · rw [keeps_of_near hl (by simpa using hm)]
      exact nearChange_iff.mpr ⟨c, ⟨x, hx, hxc⟩, by omega, by omega⟩

theorem skippedLines_keptLines (ha : MarkersApart ls) (hj : ChangeAt ls j) (n m : ℕ) :
    skippedLines ls n ++ skippedLines (keptLines ls n) m = skippedLines ls (min n m) := by
  obtain ⟨hfirst, hnone⟩ := firstKept_spec n hj
  obtain ⟨k, hk⟩ := Nat.exists_eq_add_of_le (firstKept_anti hj (Nat.min_le_left n m))
  have hrank : ∀ a ≤ k, keptRank ls n (firstKept ls n + a) = a := by
    intro a hak
    rw [keptRank, rank_add_of_forall fun b hb => keeps_between (m := min n m) hj (by omega) (by omega),
      rank_eq_zero hnone, Nat.zero_add]
  have hsecond : firstKept (keptLines ls n) m = k := by
    rw [firstKept, keptPlaces_keptLines ha, List.headD_eq_head?_getD, List.head?_map, head?_keptPlaces _ hj, hk]
    exact hrank k (Nat.le_refl k)
  rw [skippedLines_eq, skippedLines_eq, skippedLines_eq, hsecond, hk, List.take_add]
  congr 1
  refine List.ext_getElem? fun a => ?_
  rw [List.getElem?_take, List.getElem?_take, List.getElem?_drop]
  split
  · next hak =>
    have hkeeps : keeps ls n (firstKept ls n + a) = true :=
      keeps_between (m := min n m) hj (by omega) (by omega)
    rw [← getElem?_keptLines hkeeps, hrank a hak.le]
  · rfl

theorem Hunk.slimmed_slimmed {h : Hunk} (ha : MarkersApart h.lines) (hc : h.hasChanges = true) (n m : ℕ) :
    (h.slimmed n).slimmed m = h.slimmed (min n m) := by
  obtain ⟨j, hj⟩ := hasChanges_iff.mp hc
  simp only [Hunk.slimmed, keptLines_keptLines ha, ← skippedLines_keptLines ha hj n m, List.countP_append,
    Int.natCast_add, Int.add_assoc]

theorem Hunk.slim?_slim? {h : Hunk} (ha : MarkersApart h.lines) (n m : ℕ) :
    (h.slim? n).bind (Hunk.slim? · m) = h.slim? (min n m) := by
  by_cases hc : h.hasChanges = true
  · have hc' : (h.slimmed n).hasChanges = true := by rw [Hunk.hasChanges_slimmed, hc]
    rw [Hunk.slim?, if_pos hc, Option.bind_some, Hunk.slim?, if_pos hc', Hunk.slimmed_slimmed ha hc, Hunk.slim?,
      if_pos hc]
  · rw [Hunk.slim?, if_neg hc, Option.bind_none, Hunk.slim?, if_neg hc]

/-- No hunk of the section has two markers next to each other. -/
def Section.MarkersApart (s : Section) : Prop := ∀ h ∈ s.hunks, RuleReview.MarkersApart h.lines

theorem Section.slim?_slim? {s : Section} (ha : s.MarkersApart) (n m : ℕ) :
    (s.slim? n).bind (Section.slim? · m) = s.slim? (min n m) := by
  have hhunks : (s.hunks.filterMap (Hunk.slim? · n)).filterMap (Hunk.slim? · m) =
      s.hunks.filterMap (Hunk.slim? · (min n m)) := by
    rw [List.filterMap_filterMap]
    exact List.filterMap_congr fun h hh => Hunk.slim?_slim? (ha h hh) n m
  rw [Section.slim?]
  split
  · next hnil =>
    rw [hnil, List.filterMap_nil] at hhunks
    simp [Section.slim?, ← hhunks]
  · next hne => simp only [Option.bind_some, Section.slim?, hhunks]

namespace Diff

/-- No hunk of the diff has two markers next to each other. -/
def MarkersApart (d : Diff) : Prop := ∀ s ∈ d.sections, s.MarkersApart

theorem slim_slim {d : Diff} (ha : d.MarkersApart) (n m : ℕ) : (d.slim n).slim m = d.slim (min n m) := by
  have hsections : (d.sections.filterMap (Section.slim? · n)).filterMap (Section.slim? · m) =
      d.sections.filterMap (Section.slim? · (min n m)) := by
    rw [List.filterMap_filterMap]
    exact List.filterMap_congr fun s hs => Section.slim?_slim? (ha s hs) n m
  have hpreamble : d.sections.filterMap (Section.slim? · n) = [] →
      d.sections.filterMap (Section.slim? · (min n m)) = [] := by
    intro hnil
    rw [← hsections, hnil, List.filterMap_nil]
  simp only [Diff.slim, Diff.withSections, hsections]
  split
  · rfl
  · next hne =>
    have hfirst : d.sections.filterMap (Section.slim? · n) ≠ [] := by
      intro hnil
      simp [hpreamble hnil] at hne
    simp [hfirst]

end Diff

/-- A wider window moves no start farther, and no count passes the number of lines there are. -/
theorem Hunk.Readable.isWritable_slimmed {h : Hunk} (hr : h.Readable) (hc : h.hasChanges = true) (hnm : n ≤ m)
    (hlen : Numeral.isWritable h.lines.length = true) (hw : (h.slimmed n).isWritable = true) :
    (h.slimmed m).isWritable = true := by
  obtain ⟨j, hj⟩ := hasChanges_iff.mp hc
  obtain ⟨hos, _, hns, _, _⟩ := Diff.readHunk_eq_ok (hr.reads 0)
  obtain ⟨hwos, _, hwns, _⟩ := Hunk.isWritable_iff.mp hw
  have hskipped : ∀ p, (skippedLines h.lines m).countP p ≤ (skippedLines h.lines n).countP p := by
    intro p
    rw [skippedLines_eq, skippedLines_eq]
    exact (List.take_prefix_take_left (firstKept_anti hj hnm)).sublist.countP_le
  have hstart : ∀ (a : ℤ) p, 0 ≤ a → Numeral.isWritable (a + (skippedLines h.lines n).countP p) = true →
      Numeral.isWritable (a + (skippedLines h.lines m).countP p) = true := by
    intro a p ha hwa
    have hle := hskipped p
    exact Numeral.isWritable_of_le (by omega) (by omega) hwa
  have hcount : ∀ p, Numeral.isWritable ((keptLines h.lines m).countP p) = true := by
    intro p
    have hle : (keptLines h.lines m).countP p ≤ h.lines.length :=
      List.countP_le_length.trans (keptLines_sublist h.lines m).length_le
    exact Numeral.isWritable_of_le (Int.natCast_nonneg _) (Int.ofNat_le.mpr hle) hlen
  exact Hunk.isWritable_iff.mpr ⟨hstart _ _ hos hwos, hcount _, hstart _ _ hns hwns, hcount _⟩

namespace Diff

theorem Readable.isWritable_slim {d : Diff} (hr : d.Readable) (hnm : n ≤ m)
    (hlen : ∀ s ∈ d.sections, ∀ h ∈ s.hunks, Numeral.isWritable h.lines.length = true)
    (hw : (d.slim n).isWritable = true) : (d.slim m).isWritable = true := by
  rw [isWritable_slim_iff] at hw ⊢
  intro s hs h hh hc
  exact ((hr.sections s hs).hunks h hh).isWritable_slimmed hc hnm (hlen s hs h hh) (hw s hs h hh hc)

/-- Narrowing twice is narrowing once to the smaller window, also where the second narrowing fails. The first one
fails only if narrowing to the smaller window does, when the counts of all lines can be written. So narrowing again
to the same window changes nothing, and a wider window keeps every place that a narrower one keeps. -/
theorem narrow_narrow {s : Text} {d : Diff} (hd : Diff.parse s = .ok d) (ha : d.MarkersApart) (n m : ℕ) :
    (d.slim n).slim m = d.slim (min n m) ∧
    (∀ e, d.narrow n = .ok e → e.narrow m = d.narrow (min n m : ℕ)) ∧
    ((∀ t ∈ d.sections, ∀ h ∈ t.hunks, Numeral.isWritable h.lines.length = true) →
      (d.narrow n >>= (·.narrow m)) = d.narrow (min n m : ℕ)) ∧
    (∀ e, d.narrow n = .ok e → e.narrow n = .ok e) ∧
    (n ≤ m → ∀ t ∈ d.sections, ∀ h ∈ t.hunks, (keptPlaces h.lines n).Sublist (keptPlaces h.lines m)) := by
  have hslim : ∀ (k : ℕ) e, d.narrow n = .ok e → e.narrow k = d.narrow (min n k : ℕ) := by
    intro k e he
    obtain ⟨_, rfl⟩ := narrow_eq_ok.mp he
    rw [narrow_natCast, narrow_natCast, slim_slim ha]
  refine ⟨slim_slim ha n m, hslim m, fun hlen => ?_, fun e he => ?_, fun hnm t _ h _ => keptPlaces_sublist hnm⟩
  · cases hn : d.narrow n with
    | ok e => exact hslim m e hn
    | error f =>
      rw [narrow_natCast] at hn ⊢
      split at hn
      · cases hn
      · next hw =>
        cases hn
        rw [if_neg fun hmin => hw ((readable_of_parse hd).isWritable_slim (Nat.min_le_left n m) hlen hmin)]
        rfl
  · rw [hslim n e he, Nat.min_self, he]

theorem narrow_narrow_sample :
    sampleDiff.MarkersApart ∧ (sampleDiff.slim 1).slim 0 = sampleDiff.slim 0 ∧
      (sampleDiff.narrow 1 >>= (·.narrow 0)) = sampleDiff.narrow 0 ∧
      ∃ e, sampleDiff.narrow 1 = .ok e ∧ e.narrow 0 = sampleDiff.narrow 0 ∧ e.narrow 1 = .ok e := by
  have ha : sampleDiff.MarkersApart := by
    simp [Diff.MarkersApart, Section.MarkersApart, RuleReview.MarkersApart, sampleDiff, Line.isMarker]
  have hlen : ∀ t ∈ sampleDiff.sections, ∀ h ∈ t.hunks, Numeral.isWritable h.lines.length = true := by
    decide +kernel
  have hnarrow : sampleDiff.narrow 1 = .ok (sampleDiff.slim 1) := narrow_eq_ok.mpr ⟨by decide +kernel, rfl⟩
  obtain ⟨hslim, hok, hbind, hidem, _⟩ := narrow_narrow parse_sample ha 1 0
  exact ⟨ha, hslim, hbind hlen, _, hnarrow, hok _ hnarrow, hidem _ hnarrow⟩

end Diff

end RuleReview
