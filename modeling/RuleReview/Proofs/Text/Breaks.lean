import RuleReview.Text.Blank
import RuleReview.Text.Lines

/-! # Line breaks

Reading carriage returns as line feeds leaves no carriage return, and changes exactly the texts that have one. It makes
no text blank that was not.
-/
namespace RuleReview.Text
variable {s : Text}

theorem return_notMem_normalizeBreaks (s : Text) : '\r' ∉ normalizeBreaks s := by
  fun_induction normalizeBreaks s with
  | case1 => exact List.not_mem_nil
  | case2 s ih => simpa using ih
  | case3 c s hbreak ih =>
    rw [List.mem_cons, not_or]
    refine ⟨?_, ih⟩
    split
    · decide
    · next hc => exact Ne.symm hc

theorem normalizeBreaks_of_notMem (h : '\r' ∉ s) : normalizeBreaks s = s := by
  fun_induction normalizeBreaks s with
  | case1 => rfl
  | case2 s ih => exact absurd List.mem_cons_self h
  | case3 c s hbreak ih =>
    rw [List.mem_cons, not_or] at h
    rw [if_neg (Ne.symm h.1), ih h.2]

theorem normalizeBreaks_eq_self_iff : normalizeBreaks s = s ↔ '\r' ∉ s :=
  ⟨fun h => h ▸ return_notMem_normalizeBreaks s, normalizeBreaks_of_notMem⟩

theorem isBlankText_normalizeBreaks (s : Text) : (normalizeBreaks s).isBlankText = s.isBlankText := by
  fun_induction normalizeBreaks s with
  | case1 => rfl
  | case2 s ih =>
    have hr : isBlank '\r' = true := by decide
    have hn : isBlank '\n' = true := by decide
    simp only [isBlankText] at ih ⊢
    simp only [List.all_cons, hr, hn, Bool.true_and, ih]
  | case3 c s hbreak ih =>
    simp only [isBlankText] at ih ⊢
    rw [List.all_cons, List.all_cons, ih]
    split
    · next hc =>
      rw [hc]
      rfl
    · rfl

end RuleReview.Text
