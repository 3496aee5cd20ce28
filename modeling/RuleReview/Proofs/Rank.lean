import Mathlib.Data.Nat.Count

/-! # Places in a filtered range

Keeping some of the numbers below a bound puts each kept number at the place that counts the kept ones before
it. Counting never overtakes the numbers, and keeps pace with them where all are kept.
-/
namespace RuleReview
variable (p : ℕ → Bool)

/-- How many of the numbers below `i` are kept. -/
def rank (i : ℕ) : ℕ := Nat.count (fun k => p k = true) i

@[simp] theorem rank_zero : rank p 0 = 0 := Nat.count_zero _

theorem rank_succ (i : ℕ) : rank p (i + 1) = rank p i + if p i then 1 else 0 := Nat.count_succ _ i

theorem rank_succ_of_kept {p : ℕ → Bool} {i : ℕ} (hp : p i = true) : rank p (i + 1) = rank p i + 1 := by
  rw [rank_succ, if_pos hp]

theorem rank_mono {i j : ℕ} (h : i ≤ j) : rank p i ≤ rank p j := Nat.count_monotone _ h

theorem rank_lt_of_kept {p : ℕ → Bool} {i j : ℕ} (hp : p i = true) (h : i < j) : rank p i < rank p j :=
  Nat.count_strict_mono hp h

theorem rank_eq_zero {p : ℕ → Bool} {i : ℕ} (h : ∀ k < i, p k = false) : rank p i = 0 :=
  Nat.count_iff_forall_not.mpr fun k hk => by simp [h k hk]

theorem rank_add_le (i k : ℕ) : rank p (i + k) ≤ rank p i + k := by
  rw [rank, Nat.count_add]
  exact Nat.add_le_add_left (Nat.count_le _) _

theorem rank_add_of_forall {p : ℕ → Bool} {i k : ℕ} (h : ∀ j < k, p (i + j) = true) :
    rank p (i + k) = rank p i + k := by
  rw [rank, Nat.count_add]
  exact congrArg _ (Nat.count_iff_forall.mpr h)

theorem map_rank_filter_range (n : ℕ) : ((List.range n).filter p).map (rank p) = List.range (rank p n) := by
  induction n with
  | zero => simp
  | succ n ih =>
    rw [List.range_succ, List.filter_append, List.map_append, ih, rank_succ]
    cases hp : p n with
    | false => simp [hp]
    | true => simp [hp, List.range_succ]

theorem length_filter_range (n : ℕ) : ((List.range n).filter p).length = rank p n := by
  have h := congrArg List.length (map_rank_filter_range p n)
  simpa using h

theorem take_filter_range {i n : ℕ} (h : i ≤ n) :
    ((List.range n).filter p).take (rank p i) = (List.range i).filter p := by
  obtain ⟨k, rfl⟩ := Nat.exists_eq_add_of_le h
  rw [List.range_add, List.filter_append]
  exact List.take_left' (length_filter_range p i)

theorem getElem?_filter_range {p : ℕ → Bool} {i n : ℕ} (hi : i < n) (hp : p i = true) :
    ((List.range n).filter p)[rank p i]? = some i := by
  induction n with
  | zero => omega
  | succ n ih =>
    rw [List.range_succ, List.filter_append]
    by_cases hin : i = n
    · subst hin
      rw [← length_filter_range p i, List.getElem?_append_right (Nat.le_refl _)]
      simp [hp]
    · have hlt : i < n := by omega
      have hlen : rank p i < ((List.range n).filter p).length := by
        rw [length_filter_range]
        exact rank_lt_of_kept hp hlt
      rw [List.getElem?_append_left hlen]
      exact ih hlt

end RuleReview
