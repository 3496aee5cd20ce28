import RuleReview.Diff.Slim
import RuleReview.Proofs.Rank

/-! # Which lines a window keeps

A line that is no marker is kept when a change is near it, and a marker when the line before it is kept. So every
change is kept, wider windows keep more, and what is kept stays in its order.
-/
namespace RuleReview
variable {ls : List Line} {n m i j : ℕ} {l : Line}

def ChangeAt (ls : List Line) (j : ℕ) : Prop := ∃ l, ls[j]? = some l ∧ l.isChange = true

theorem isMarker_of_isChange (h : l.isChange = true) : l.isMarker = false := by
  rcases l with _ | ⟨c, s⟩
  · rfl
  · by_cases hc : c = '\\'
    · subst hc
      exact absurd h Bool.false_ne_true
    · simp [Line.isMarker, hc]

theorem nearChange_iff : nearChange ls n i = true ↔ ∃ j, ChangeAt ls j ∧ i ≤ j + n ∧ j ≤ i + n := by
  rw [nearChange, List.any_eq_true]
  constructor
  · rintro ⟨l, hl, hc⟩
    obtain ⟨k, hk⟩ := List.mem_iff_getElem?.mp hl
    rw [List.getElem?_take, List.getElem?_drop] at hk
    split at hk
    · exact ⟨i - n + k, ⟨l, hk, hc⟩, by omega, by omega⟩
    · cases hk
  · rintro ⟨j, ⟨l, hl, hc⟩, hlo, hhi⟩
    refine ⟨l, List.mem_iff_getElem?.mpr ⟨j - (i - n), ?_⟩, hc⟩
    rw [List.getElem?_take, List.getElem?_drop, if_pos (by omega)]
    rw [show i - n + (j - (i - n)) = j by omega]
    exact hl

theorem nearChange_mono (hnm : n ≤ m) (h : nearChange ls n i = true) : nearChange ls m i = true := by
  obtain ⟨j, hj, hlo, hhi⟩ := nearChange_iff.mp h
  exact nearChange_iff.mpr ⟨j, hj, by omega, by omega⟩

theorem keeps_iff : keeps ls n i = true ↔
    ∃ l, ls[i]? = some l ∧
      (l.isMarker = false ∧ nearChange ls n i = true ∨
        l.isMarker = true ∧ ∃ k, i = k + 1 ∧ keeps ls n k = true) := by
  cases i with
  | zero =>
    cases h : ls[0]? with
    | none => simp [keeps, h]
    | some l => simp [keeps, h]
  | succ k =>
    cases h : ls[k + 1]? with
    | none => simp [keeps, h]
    | some l => cases hl : l.isMarker <;> simp [keeps, h, hl]

theorem keeps_of_near (hl : ls[i]? = some l) (hm : l.isMarker = false) :
    keeps ls n i = nearChange ls n i := by
  rw [Bool.eq_iff_iff, keeps_iff]
  simp [hl, hm]

theorem keeps_marker (hl : ls[i + 1]? = some l) (hm : l.isMarker = true) :
    keeps ls n (i + 1) = keeps ls n i := by
  rw [Bool.eq_iff_iff, keeps_iff]
  simp [hl, hm]

theorem lt_length_of_keeps (h : keeps ls n i = true) : i < ls.length := by
  obtain ⟨l, hl, _⟩ := keeps_iff.mp h
  exact (List.getElem?_eq_some_iff.mp hl).1

theorem keeps_of_changeAt (n : ℕ) (h : ChangeAt ls j) : keeps ls n j = true := by
  obtain ⟨l, hl, hc⟩ := h
  rw [keeps_of_near hl (isMarker_of_isChange hc)]
  exact nearChange_iff.mpr ⟨j, ⟨l, hl, hc⟩, by omega, by omega⟩

theorem keeps_mono (hnm : n ≤ m) (h : keeps ls n i = true) : keeps ls m i = true := by
  induction i with
  | zero =>
    obtain ⟨l, hl, ⟨hm, hnear⟩ | ⟨_, k, hk, _⟩⟩ := keeps_iff.mp h
    · exact keeps_iff.mpr ⟨l, hl, .inl ⟨hm, nearChange_mono hnm hnear⟩⟩
    · omega
  | succ i ih =>
    obtain ⟨l, hl, ⟨hm, hnear⟩ | ⟨hm, k, hk, hkeeps⟩⟩ := keeps_iff.mp h
    · exact keeps_iff.mpr ⟨l, hl, .inl ⟨hm, nearChange_mono hnm hnear⟩⟩
    · obtain rfl : k = i := by omega
      exact keeps_iff.mpr ⟨l, hl, .inr ⟨hm, k, rfl, ih hkeeps⟩⟩

theorem mem_keptPlaces : i ∈ keptPlaces ls n ↔ keeps ls n i = true := by
  rw [keptPlaces, List.mem_filter, List.mem_range]
  exact ⟨And.right, fun h => ⟨lt_length_of_keeps h, h⟩⟩

theorem keptPlaces_sublist (hnm : n ≤ m) : (keptPlaces ls n).Sublist (keptPlaces ls m) :=
  List.monotone_filter_right _ fun _ h => keeps_mono hnm h

theorem hasChanges_iff {h : Hunk} : h.hasChanges = true ↔ ∃ j, ChangeAt h.lines j := by
  rw [Hunk.hasChanges, List.any_eq_true]
  constructor
  · rintro ⟨l, hl, hc⟩
    obtain ⟨j, hj⟩ := List.mem_iff_getElem?.mp hl
    exact ⟨j, l, hj, hc⟩
  · rintro ⟨j, l, hj, hc⟩
    exact ⟨l, List.mem_of_getElem? hj, hc⟩

theorem exists_changeAt_of_keeps (h : keeps ls n i = true) : ∃ j, ChangeAt ls j ∧ j ≤ i + n := by
  induction i with
  | zero =>
    obtain ⟨l, hl, ⟨_, hnear⟩ | ⟨_, k, hk, _⟩⟩ := keeps_iff.mp h
    · obtain ⟨j, hj, _, hhi⟩ := nearChange_iff.mp hnear
      exact ⟨j, hj, hhi⟩
    · omega
  | succ i ih =>
    obtain ⟨l, hl, ⟨_, hnear⟩ | ⟨_, k, hk, hkeeps⟩⟩ := keeps_iff.mp h
    · obtain ⟨j, hj, _, hhi⟩ := nearChange_iff.mp hnear
      exact ⟨j, hj, hhi⟩
    · obtain rfl : k = i := by omega
      obtain ⟨j, hj, hhi⟩ := ih hkeeps
      exact ⟨j, hj, by omega⟩

def firstKept (ls : List Line) (n : ℕ) : ℕ := (keptPlaces ls n).headD 0

theorem skippedLines_eq (ls : List Line) (n : ℕ) : skippedLines ls n = ls.take (firstKept ls n) := rfl

theorem head?_keptPlaces (n : ℕ) (hj : ChangeAt ls j) : (keptPlaces ls n).head? = some (firstKept ls n) := by
  have hmem : j ∈ keptPlaces ls n := mem_keptPlaces.mpr (keeps_of_changeAt n hj)
  obtain ⟨e, es, hes⟩ := List.exists_cons_of_ne_nil (List.ne_nil_of_mem hmem)
  simp [firstKept, hes]

theorem firstKept_spec (n : ℕ) (hj : ChangeAt ls j) :
    keeps ls n (firstKept ls n) = true ∧ ∀ i < firstKept ls n, keeps ls n i = false := by
  have hhead := head?_keptPlaces n hj
  rw [keptPlaces, List.head?_filter, List.find?_range_eq_some] at hhead
  obtain ⟨hkeeps, _, hbefore⟩ := hhead
  exact ⟨hkeeps, fun i hi => by simpa using hbefore i hi⟩

theorem firstKept_anti (hj : ChangeAt ls j) (hnm : n ≤ m) : firstKept ls m ≤ firstKept ls n := by
  by_contra hlt
  have hnot := (firstKept_spec m hj).2 (firstKept ls n) (Nat.lt_of_not_le hlt)
  rw [keeps_mono hnm (firstKept_spec n hj).1] at hnot
  cases hnot

theorem filterMap_range (ls : List Line) (i : ℕ) : (List.range i).filterMap (ls[·]?) = ls.take i := by
  induction i with
  | zero => rfl
  | succ i ih =>
    rw [List.range_succ, List.filterMap_append, ih, List.take_add_one]
    cases h : ls[i]? <;> simp [h]

theorem filterMap_range_length (ls : List Line) : (List.range ls.length).filterMap (ls[·]?) = ls := by
  rw [filterMap_range, List.take_length]

theorem keptLines_sublist (ls : List Line) (n : ℕ) : (keptLines ls n).Sublist ls := by
  conv => rhs; rw [← filterMap_range_length ls]
  exact List.filter_sublist.filterMap _

theorem filter_isChange_keptLines (ls : List Line) (n : ℕ) :
    (keptLines ls n).filter Line.isChange = ls.filter Line.isChange := by
  conv => rhs; rw [← filterMap_range_length ls]
  rw [keptLines, keptPlaces, List.filterMap_filter, List.filter_filterMap, List.filter_filterMap]
  refine List.filterMap_congr fun i _ => ?_
  by_cases hk : keeps ls n i = true
  · rw [if_pos hk]
  · rw [if_neg hk]
    cases hl : ls[i]? with
    | none => rfl
    | some l =>
      have hc : l.isChange = false := by
        rw [← Bool.not_eq_true]
        exact fun hc => hk (keeps_of_changeAt n ⟨l, hl, hc⟩)
      simp [Option.filter, hc]

end RuleReview
