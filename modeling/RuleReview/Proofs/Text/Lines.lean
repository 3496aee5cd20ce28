import RuleReview.Text.Lines

/-! # Splitting and joining lines

The parts between line feeds hold none, and joining them gives the text again. Parts without line feeds are
what their joined text splits into.
-/
namespace RuleReview.Text

theorem joinLines_splitLines (s : Text) : joinLines (splitLines s) = s := List.intercalate_splitOn '\n'

theorem splitLines_joinLines {ls : List Text} (hne : ls ≠ []) (h : ∀ l ∈ ls, '\n' ∉ l) :
    splitLines (joinLines ls) = ls := List.splitOn_intercalate '\n' h hne

theorem splitLines_ne_nil (s : Text) : splitLines s ≠ [] := List.splitOn_ne_nil '\n' s

theorem notMem_splitOn {sep : Char} {s l : Text} (h : l ∈ s.splitOn sep) : sep ∉ l := by
  induction s generalizing l with
  | nil =>
    rw [List.mem_singleton.mp h]
    exact List.not_mem_nil
  | cons c s ih =>
    rw [List.splitOn_cons_eq_if_modifyHead] at h
    by_cases hc : c = sep
    · rw [if_pos (beq_iff_eq.mpr hc)] at h
      rcases List.mem_cons.mp h with rfl | h
      · exact List.not_mem_nil
      · exact ih h
    · rw [if_neg (by simpa using hc)] at h
      obtain ⟨k, ks, hk⟩ := List.exists_cons_of_ne_nil (List.splitOn_ne_nil sep s)
      rw [hk, List.modifyHead_cons] at h
      rcases List.mem_cons.mp h with rfl | h
      · have hk : sep ∉ k := ih (by rw [hk]; exact List.mem_cons_self)
        simp [Ne.symm hc, hk]
      · exact ih (by rw [hk]; exact List.mem_cons_of_mem k h)

theorem splitOn_append_cons (sep : Char) (s t : Text) :
    (s ++ sep :: t).splitOn sep = s.splitOn sep ++ t.splitOn sep := by
  induction s with
  | nil => simp [List.splitOn_cons_eq_if_modifyHead]
  | cons c s ih =>
    obtain ⟨l, ls, hls⟩ := List.exists_cons_of_ne_nil (List.splitOn_ne_nil sep s)
    rw [List.cons_append, List.splitOn_cons_eq_if_modifyHead, ih, List.splitOn_cons_eq_if_modifyHead, hls]
    split <;> rfl

theorem newline_notMem_splitLines {s l : Text} (h : l ∈ splitLines s) : '\n' ∉ l := notMem_splitOn h

theorem length_splitLines_le (s : Text) : (splitLines s).length ≤ s.length + 1 := by
  induction s with
  | nil => exact Nat.le_refl 1
  | cons c s ih =>
    rw [splitLines] at ih ⊢
    rw [List.splitOn_cons_eq_if_modifyHead, List.length_cons]
    split
    · exact Nat.succ_le_succ ih
    · rw [List.length_modifyHead]
      exact Nat.le_succ_of_le ih

theorem joinLines_append {ls ks : List Text} (hls : ls ≠ []) (hks : ks ≠ []) :
    joinLines (ls ++ ks) = joinLines ls ++ '\n' :: joinLines ks := by
  induction ls with
  | nil => exact absurd rfl hls
  | cons l ls ih =>
    cases ls with
    | nil => simp [joinLines, List.intercalate_cons_of_ne_nil hks]
    | cons k ls =>
      have hk := ih (List.cons_ne_nil k ls)
      rw [joinLines, List.cons_append, List.intercalate_cons_of_ne_nil (by simp)]
      rw [joinLines] at hk
      rw [hk]
      simp [joinLines, List.intercalate_cons_cons]

theorem prefix_joinLines_cons (l : Text) (ls : List Text) : l <+: joinLines (l :: ls) := by
  cases ls with
  | nil =>
    have hone : joinLines [l] = l := List.intercalate_singleton
    exact hone.symm ▸ List.prefix_rfl
  | cons k ls =>
    rw [joinLines, List.intercalate_cons_cons, List.append_assoc]
    exact List.prefix_append l _

theorem infix_joinLines {ls : List Text} {l : Text} (hl : l ∈ ls) : l <:+: joinLines ls := by
  induction ls with
  | nil => cases hl
  | cons k ls ih =>
    rcases List.mem_cons.mp hl with rfl | hl
    · exact (prefix_joinLines_cons l ls).isInfix
    · rw [← List.singleton_append, joinLines_append (List.cons_ne_nil k []) (List.ne_nil_of_mem hl)]
      exact (ih hl).trans ((List.suffix_cons '\n' _).trans (List.suffix_append _ _)).isInfix

theorem infix_of_mem_splitLines {s l : Text} (h : l ∈ splitLines s) : l <:+: s := by
  conv => rhs; rw [← joinLines_splitLines s]
  exact infix_joinLines h

theorem mem_joinLines {ls : List Text} {l : Text} {c : Char} (hl : l ∈ ls) (hc : c ∈ l) : c ∈ joinLines ls :=
  (infix_joinLines hl).subset hc

theorem eq_nil_of_joinLines {ls : List Text} (h : joinLines ls = []) : ∀ l ∈ ls, l = [] := by
  cases ls with
  | nil => simp
  | cons l ls =>
    cases ls with
    | nil => simpa [joinLines] using h
    | cons k ls => simp [joinLines, List.intercalate_cons_cons] at h

theorem joinLines_append_nil {ls : List Text} (h : ls ≠ []) : joinLines (ls ++ [[]]) = joinLines ls ++ ['\n'] := by
  rw [joinLines_append h (List.cons_ne_nil _ _)]
  simp [joinLines]

theorem flatMap_ended {ls : List Text} (hls : ls ≠ []) : ls.flatMap (· ++ ['\n']) = joinLines ls ++ ['\n'] := by
  induction ls with
  | nil => exact absurd rfl hls
  | cons l ls ih =>
    cases ls with
    | nil => simp [joinLines]
    | cons k ls =>
      rw [List.flatMap_cons, ih (List.cons_ne_nil k ls)]
      simp [joinLines, List.intercalate_cons_cons]

/-- Parts with a separator in front of each of them, which stands between them when they are joined. -/
theorem flatMap_separated (c : Char) {parts : List Text} (h : parts ≠ []) :
    parts.flatMap (c :: ·) = c :: joinWith [c] parts := by
  induction parts with
  | nil => exact absurd rfl h
  | cons l parts ih =>
    cases parts with
    | nil => simp [joinWith]
    | cons k parts =>
      rw [List.flatMap_cons, ih (List.cons_ne_nil k parts)]
      simp [joinWith, List.intercalate_cons_cons]

theorem flatMap_opened {ls : List Text} (hls : ls ≠ []) : ls.flatMap ('\n' :: ·) = '\n' :: joinLines ls :=
  flatMap_separated '\n' hls

end RuleReview.Text
