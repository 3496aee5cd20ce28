import Mathlib.Data.List.Infix
import Mathlib.Data.List.TakeWhile
import RuleReview.Text.Basic

/-! # The start and the first occurrence of a text

Where a text is cut depends on what stands up to the end of the first occurrence only. An occurrence cannot reach into
what stands before it when that has none and does not end in the character that the occurrence is made of, and it does
not reach to a last character that is none of its own.
-/
namespace RuleReview.Text

variable {p s t a b x : Text} {c : Char} {n : Nat}

theorem after?_eq_some {rest : Text} : s.after? p = some rest ↔ s = p ++ rest := by
  rw [after?, List.isPrefixOf?_eq_some_iff_append_eq, eq_comm]

theorem after?_append (p rest : Text) : (p ++ rest).after? p = some rest := after?_eq_some.mpr rfl

theorem holds_iff : holds p s = true ↔ p <:+: s := by
  induction s with
  | nil => rw [holds, List.isEmpty_iff, List.infix_nil]
  | cons d s ih => rw [holds, Bool.or_eq_true, ih, List.isPrefixOf_iff_prefix, List.infix_cons_iff]

theorem infix_concat_iff (hp : p ≠ []) (hc : c ∉ p) : p <:+: s ++ [c] ↔ p <:+: s := by
  rw [List.infix_concat_iff, or_iff_right]
  intro hend
  rcases List.suffix_concat_iff.mp hend with rfl | ⟨q, rfl, -⟩
  · exact hp rfl
  · exact hc (List.mem_append_right q List.mem_cons_self)

theorem not_suffix_concat (hp : p ≠ []) (hc : c ∉ p) : ¬p <:+ s ++ [c] := by
  intro hend
  rcases List.suffix_concat_iff.mp hend with rfl | ⟨q, rfl, -⟩
  · exact hp rfl
  · exact hc (List.mem_append_right q List.mem_cons_self)

theorem cut?_cons (p s : Text) (c : Char) : cut? p (c :: s) =
    match p.isPrefixOf? (c :: s) with
    | some rest => some ([], rest)
    | none => (cut? p s).map fun (before, rest) => (c :: before, rest) := rfl

theorem cut?_append_self (hp : p ≠ []) (s : Text) : cut? p (p ++ s) = some ([], s) := by
  obtain ⟨c, p, rfl⟩ := List.exists_cons_of_ne_nil hp
  have hstart : (c :: p).isPrefixOf? (c :: p ++ s) = some s := List.isPrefixOf?_eq_some_iff_append_eq.mpr rfl
  rw [List.cons_append] at hstart ⊢
  rw [cut?_cons, hstart]

theorem cut?_cons_of_not (h : ¬p <+: c :: s) :
    cut? p (c :: s) = (cut? p s).map fun (before, rest) => (c :: before, rest) := by
  have hnone : p.isPrefixOf? (c :: s) = none := by
    rw [Option.eq_none_iff_forall_ne_some]
    exact fun rest hrest => h ⟨rest, List.isPrefixOf?_eq_some_iff_append_eq.mp hrest⟩
  rw [cut?_cons, hnone]

/-- Where a text is cut, by induction on the text. -/
theorem cut?_cases (hp : p ≠ []) (h : cut? p (c :: s) = some (a, b)) :
    a = [] ∧ c :: s = p ++ b ∨ ¬p <+: c :: s ∧ ∃ a', a = c :: a' ∧ cut? p s = some (a', b) := by
  by_cases hstart : p <+: c :: s
  · obtain ⟨rest, hrest⟩ := hstart
    rw [← hrest, cut?_append_self hp] at h
    cases h
    exact .inl ⟨rfl, hrest.symm⟩
  · rw [cut?_cons_of_not hstart] at h
    obtain ⟨⟨a', b'⟩, hcut, he⟩ := Option.map_eq_some_iff.mp h
    cases he
    exact .inr ⟨hstart, a', rfl, hcut⟩

theorem cut?_nil (hp : p ≠ []) : cut? p [] = none := by
  rw [cut?, if_neg (by simpa using hp)]

theorem eq_append_of_cut? (hp : p ≠ []) (h : cut? p s = some (a, b)) : s = a ++ (p ++ b) := by
  induction s generalizing a with
  | nil => cases (cut?_nil hp).symm.trans h
  | cons c s ih =>
    rcases cut?_cases hp h with ⟨rfl, hs⟩ | ⟨-, a', rfl, hcut⟩
    · exact hs
    · exact congrArg (c :: ·) (ih hcut)

theorem exists_cut? (hp : p ≠ []) (h : p <:+: s) : ∃ a b, cut? p s = some (a, b) := by
  induction s with
  | nil => exact absurd (List.eq_nil_of_infix_nil h) hp
  | cons c s ih =>
    by_cases hstart : p <+: c :: s
    · obtain ⟨rest, hrest⟩ := hstart
      exact ⟨[], rest, hrest ▸ cut?_append_self hp rest⟩
    · obtain ⟨a, b, hcut⟩ := ih ((List.infix_cons_iff.mp h).resolve_left hstart)
      exact ⟨c :: a, b, by rw [cut?_cons_of_not hstart, hcut]; rfl⟩

theorem length_le_of_cut? (hp : p ≠ []) (h : cut? p s = some (a, b)) {a' b' : Text} (hs : s = a' ++ (p ++ b')) :
    a.length ≤ a'.length := by
  induction s generalizing a a' with
  | nil => cases (cut?_nil hp).symm.trans h
  | cons c s ih =>
    rcases cut?_cases hp h with ⟨rfl, -⟩ | ⟨hstart, a₁, rfl, hcut⟩
    · exact Nat.zero_le _
    · cases a' with
      | nil => exact absurd ⟨b', hs.symm⟩ hstart
      | cons d a' => exact Nat.succ_le_succ (ih hcut (List.cons.inj hs).2)

theorem cut?_append (hp : p ≠ []) (h : cut? p s = some (a, b)) (t : Text) : cut? p (s ++ t) = some (a, b ++ t) := by
  induction s generalizing a with
  | nil => cases (cut?_nil hp).symm.trans h
  | cons c s ih =>
    rcases cut?_cases hp h with ⟨rfl, hs⟩ | ⟨hstart, a', rfl, hcut⟩
    · rw [hs, List.append_assoc, cut?_append_self hp]
    · have hlength : p.length ≤ (c :: s).length := by
        rw [eq_append_of_cut? hp h]
        simp only [List.length_append]
        omega
      have hstill : ¬p <+: c :: (s ++ t) := by
        intro hlong
        exact hstart (List.prefix_of_prefix_length_le hlong (List.prefix_append (c :: s) t) hlength)
      rw [List.cons_append, cut?_cons_of_not hstill, ih hcut]
      rfl

/-- Nothing is cut at before `t` when `x` has no occurrence and does not end in the character that makes up `p`. -/
theorem cut?_replicate_append (hx : ¬List.replicate (n + 1) c <:+: x) (hlast : x.getLast? ≠ some c) (t : Text) :
    cut? (List.replicate (n + 1) c) (x ++ t) = (cut? (List.replicate (n + 1) c) t).map fun (a, b) => (x ++ a, b) := by
  induction x with
  | nil =>
    rw [List.nil_append]
    cases cut? (List.replicate (n + 1) c) t <;> rfl
  | cons d x ih =>
    have hfree : ¬List.replicate (n + 1) c <+: d :: (x ++ t) := by
      intro hstart
      have hown : d :: x <+: d :: (x ++ t) := List.prefix_append (d :: x) t
      rcases Nat.le_total (n + 1) (d :: x).length with hlong | hshort
      · have hin := List.prefix_of_prefix_length_le hstart hown (by rwa [List.length_replicate])
        exact hx hin.isInfix
      · have hall := List.prefix_of_prefix_length_le hown hstart (by rwa [List.length_replicate])
        have hmem := hall.subset (List.getLast_mem (List.cons_ne_nil d x))
        rw [List.getLast?_eq_some_getLast (List.cons_ne_nil d x), List.eq_of_mem_replicate hmem] at hlast
        exact hlast rfl
    have hlast' : x.getLast? ≠ some c := by
      intro he
      rw [List.getLast?_cons, he] at hlast
      exact hlast rfl
    rw [List.cons_append, cut?_cons_of_not hfree, ih (fun h => hx (List.infix_cons h)) hlast', Option.map_map]
    rfl

theorem upTo_append_cons (hs : c ∉ s) (t : Text) : (s ++ c :: t).upTo c = s := by
  have hkept : ∀ d ∈ s, (d != c) = true := fun d hd => bne_iff_ne.mpr (ne_of_mem_of_not_mem hd hs)
  rw [upTo, List.takeWhile_append_of_pos hkept]
  simp

theorem upTo_of_notMem (hs : c ∉ s) : s.upTo c = s :=
  List.takeWhile_eq_self_iff.mpr fun _ hd => bne_iff_ne.mpr (ne_of_mem_of_not_mem hd hs)

theorem upTo_cases (c : Char) (s : Text) : c ∉ s.upTo c ∧ (s.upTo c = s ∨ ∃ t, s = s.upTo c ++ c :: t) := by
  by_cases hs : c ∈ s
  · obtain ⟨a, b, rfl, ha⟩ := List.eq_append_cons_of_mem hs
    rw [upTo_append_cons ha]
    exact ⟨ha, .inr ⟨b, rfl⟩⟩
  · rw [upTo_of_notMem hs]
    exact ⟨hs, .inl rfl⟩

end RuleReview.Text
