import Mathlib.Data.List.Infix
import RuleReview.Proofs.Text.Breaks
import RuleReview.Proofs.Text.Lines

/-! # Lines ended by any boundary

In a text whose lines are ended by line feeds other boundaries may stand as well, and each of them ends a line too. So a
line is cut into pieces where it has a boundary, a carriage return right before its line feed apart, and it is one piece
only when it has none.
-/
namespace RuleReview.Text
variable {c : Char} {l s t : Text} {ls : List Text}

theorem isBoundary_of_isBlank (hc : isBlank c = false) : isBoundary c = false := by
  rw [← Bool.not_eq_true, isBoundary, List.contains_iff_mem]
  rw [← Bool.not_eq_true, isBlank, List.contains_iff_mem] at hc
  exact fun hmem => hc ((by decide : boundaryPoints ⊆ blankPoints) hmem)

theorem boundedLines_cons (hc : c ≠ '\r') (s : Text) : boundedLines (c :: s) =
    if isBoundary c then [] :: boundedLines s
    else match boundedLines s with
      | [] => [[c]]
      | l :: ls => (c :: l) :: ls := by
  cases s with
  | nil => simp [boundedLines]
  | cons d s =>
    rw [boundedLines.eq_def]
    split
    · next h => cases h
    · next h =>
      cases h
      exact absurd rfl hc
    · next h =>
      cases h
      rfl

/-- What a line is cut into, when a line feed ends it. -/
def cutLines (l : Text) : List Text := (if l.getLast? = some '\r' then l.dropLast else l).splitOnP isBoundary

theorem cutLines_ne_nil (l : Text) : cutLines l ≠ [] := List.splitOnP_ne_nil _ _

theorem cutLines_of_free (h : ∀ c ∈ l, isBoundary c = false) : cutLines l = [l] := by
  have hlast : l.getLast? ≠ some '\r' := fun hl => by cases h _ (List.mem_of_getLast? hl)
  rw [cutLines, if_neg hlast, List.splitOnP_eq_singleton h]

theorem cutLines_cons (h : c = '\r' → l ≠ []) : cutLines (c :: l) =
    if isBoundary c then [] :: cutLines l else (cutLines l).modifyHead (c :: ·) := by
  cases l with
  | nil =>
    have hc : [c].getLast? ≠ some '\r' := fun hlast => h (Option.some.inj hlast) rfl
    rw [cutLines, if_neg hc]
    exact List.splitOnP_cons_eq_if_modifyHead c []
  | cons d l =>
    rw [cutLines, cutLines, List.getLast?_cons_cons, List.dropLast_cons_of_ne_nil (List.cons_ne_nil d l)]
    split <;> exact List.splitOnP_cons_eq_if_modifyHead c _

theorem boundedLines_line (hl : '\n' ∉ l) (t : Text) :
    boundedLines (normalizeBreaks (l ++ '\n' :: t)) = cutLines l ++ boundedLines (normalizeBreaks t) := by
  have hend : boundedLines ('\n' :: normalizeBreaks t) = [] :: boundedLines (normalizeBreaks t) := by
    rw [boundedLines_cons (by decide), if_pos (by decide)]
  induction l with
  | nil =>
    rw [cutLines_of_free (by simp)]
    simpa [normalizeBreaks] using hend
  | cons c l ih =>
    rw [List.mem_cons, not_or] at hl
    by_cases hreturn : c = '\r' ∧ l = []
    · obtain ⟨rfl, rfl⟩ := hreturn
      exact hend
    have hne : c = '\r' → l ≠ [] := fun hc hnil => hreturn ⟨hc, hnil⟩
    have hbreak : normalizeBreaks (c :: (l ++ '\n' :: t)) =
        (if c = '\r' then '\n' else c) :: normalizeBreaks (l ++ '\n' :: t) := by
      rw [normalizeBreaks]
      intro s hc hs
      obtain ⟨d, l, rfl⟩ := List.exists_cons_of_ne_nil (hne hc)
      exact hl.2 (List.mem_cons.mpr (.inl (List.cons.inj hs).1.symm))
    have hkind : isBoundary (if c = '\r' then '\n' else c) = isBoundary c := by
      split
      · next hc => subst hc; decide
      · rfl
    rw [List.cons_append, hbreak, boundedLines_cons (by split <;> first | decide | assumption), hkind, ih hl.2,
      cutLines_cons hne]
    by_cases hb : isBoundary c = true
    · rw [if_pos hb, if_pos hb, List.cons_append]
    · have hc : c ≠ '\r' := by
        rintro rfl
        exact hb (by decide)
      obtain ⟨k, ks, hks⟩ := List.exists_cons_of_ne_nil (cutLines_ne_nil l)
      rw [if_neg hb, if_neg hb, if_neg hc, hks]
      rfl

theorem boundedLines_header (hls : ∀ l ∈ ls, '\n' ∉ l) (t : Text) :
    boundedLines (normalizeBreaks (ls.flatMap (· ++ ['\n']) ++ t)) =
      ls.flatMap cutLines ++ boundedLines (normalizeBreaks t) := by
  induction ls with
  | nil => rfl
  | cons l ls ih =>
    obtain ⟨hl, hls⟩ := List.forall_mem_cons.mp hls
    rw [List.flatMap_cons, List.flatMap_cons, List.append_assoc, List.append_assoc, List.append_assoc,
      List.singleton_append, boundedLines_line hl, ih hls]

theorem normalizeBreaks_concat (s : Text) : normalizeBreaks (s ++ ['\n']) = normalizeBreaks s ∨
    normalizeBreaks (s ++ ['\n']) = normalizeBreaks s ++ ['\n'] := by
  fun_induction normalizeBreaks s with
  | case1 => exact .inr rfl
  | case2 s ih =>
    rcases ih with ih | ih
    · exact .inl (congrArg ('\n' :: ·) ih)
    · exact .inr (congrArg ('\n' :: ·) ih)
  | case3 c s hbreak ih =>
    by_cases hlast : c = '\r' ∧ s = []
    · obtain ⟨rfl, rfl⟩ := hlast
      exact .inl rfl
    · have hstep : normalizeBreaks (c :: (s ++ ['\n'])) =
          (if c = '\r' then '\n' else c) :: normalizeBreaks (s ++ ['\n']) := by
        rw [normalizeBreaks]
        rintro r rfl hr
        cases s with
        | nil => exact hlast ⟨rfl, rfl⟩
        | cons d s => exact hbreak s rfl (by rw [(List.cons.inj hr).1])
      rw [List.cons_append, hstep]
      rcases ih with ih | ih
      · exact .inl (by rw [ih])
      · exact .inr (by rw [ih]; rfl)

theorem boundedLines_concat (hs : '\r' ∉ s) : boundedLines (s ++ ['\n']) = boundedLines s ∨
    boundedLines (s ++ ['\n']) = boundedLines s ++ [[]] := by
  induction s with
  | nil => exact .inr rfl
  | cons c s ih =>
    rw [List.mem_cons, not_or] at hs
    have hc : c ≠ '\r' := Ne.symm hs.1
    rw [List.cons_append, boundedLines_cons hc, boundedLines_cons hc]
    split
    · rcases ih hs.2 with ih | ih
      · exact .inl (by rw [ih])
      · exact .inr (by rw [ih]; rfl)
    · rcases ih hs.2 with ih | ih
      · exact .inl (by rw [ih])
      · rw [ih]
        cases boundedLines s with
        | nil => exact .inl rfl
        | cons l ls => exact .inr rfl

theorem boundedLines_joinLines (hne : ls ≠ []) (hls : ∀ l ∈ ls, '\n' ∉ l) :
    ls.flatMap cutLines = boundedLines (normalizeBreaks (joinLines ls)) ∨
      ls.flatMap cutLines = boundedLines (normalizeBreaks (joinLines ls)) ++ [[]] := by
  have hcut := boundedLines_header hls []
  rw [List.append_nil, flatMap_ended hne] at hcut
  have hnil : boundedLines (normalizeBreaks []) = [] := rfl
  rw [hnil, List.append_nil] at hcut
  rw [← hcut]
  rcases normalizeBreaks_concat (joinLines ls) with h | h
  · exact .inl (by rw [h])
  · rw [h]
    exact boundedLines_concat (return_notMem_normalizeBreaks _)

end RuleReview.Text
