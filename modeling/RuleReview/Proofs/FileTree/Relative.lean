import Mathlib.Data.List.Induction
import RuleReview.Proofs.FileTree.Names

/-! # Paths seen from the root

A path that goes down from the root by names alone is shown as it is written, wherever the root is: reading it drops
nothing, and making it normal takes back nothing but what the root itself takes back.
-/
namespace RuleReview

namespace Path

/-- Every part between slashes is a name that leads on. -/
def IsRelative (s : Text) : Prop := ∀ n ∈ s.splitOn '/', n ≠ [] ∧ n ≠ ['.'] ∧ n ≠ ['.', '.']

instance (s : Text) : Decidable (IsRelative s) :=
  inferInstanceAs (Decidable (∀ n ∈ s.splitOn '/', n ≠ [] ∧ n ≠ ['.'] ∧ n ≠ ['.', '.']))

variable {s : Text}

theorem IsRelative.ne_nil (h : IsRelative s) : s ≠ [] := by
  rintro rfl
  exact (h [] List.mem_cons_self).1 rfl

theorem IsRelative.head?_ne (h : IsRelative s) : s.head? ≠ some '/' := by
  intro hslash
  obtain ⟨r, rfl⟩ : ∃ r, s = '/' :: r := List.head?_eq_some_iff.mp hslash
  refine (h [] ?_).1 rfl
  rw [List.splitOn_cons_eq_if_modifyHead, if_pos (beq_self_eq_true _)]
  exact List.mem_cons_self

theorem origin_of_head?_ne (h : s.head? ≠ some '/') : Origin.ofText s = .here := by
  have hnone : s.takeWhile (· == '/') = [] := by
    cases s with
    | nil => rfl
    | cons c s => exact List.takeWhile_cons_of_neg fun hc => h (by rw [beq_iff_eq.mp hc]; rfl)
  rw [Origin.ofText, hnone]
  rfl

theorem IsRelative.ofText_eq (h : IsRelative s) : ofText s = ⟨.here, s.splitOn '/'⟩ := by
  have hnames : (s.splitOn '/').filter isNamed = s.splitOn '/' := by
    refine List.filter_eq_self.mpr fun n hn => ?_
    obtain ⟨hne, hdot, -⟩ := h n hn
    simp [isNamed, hne, hdot]
  rw [ofText, origin_of_head?_ne h.head?_ne, hnames]

theorem normalNames_append {names : List Text} (h : ∀ n ∈ names, n ≠ ['.', '.']) (base : List Text) :
    normalNames (base ++ names) = normalNames base ++ names := by
  induction names using List.reverseRecOn with
  | nil => rw [List.append_nil, List.append_nil]
  | append_singleton names n ih =>
    obtain ⟨hnames, hn⟩ := List.forall_mem_append.mp h
    rw [normalNames] at ih ⊢
    rw [← List.append_assoc, List.foldl_append, ih hnames, List.foldl_cons, List.foldl_nil, ← List.append_assoc]
    exact if_neg (hn n (List.mem_singleton_self n))

theorem normalNames_eq_self {names : List Text} (h : ['.', '.'] ∉ names) : normalNames names = names :=
  normalNames_append (fun _ hn => ne_of_mem_of_not_mem hn h) []

theorem names_whole (p : Path) : p.whole.names = normalNames p.names := by
  rw [whole, join]
  split <;> rfl

theorem origin_whole (p : Path) : p.whole.origin = if p.absolute then p.origin else .top := by
  rw [whole, join]
  split <;> rfl

theorem from?_whole_below (base : Path) (names : List Text) :
    base.whole.from? (base.below names).whole = (normalNames base.names).isPrefixOf? (normalNames (base.names ++ names)) := by
  rw [from?, names_whole, names_whole, origin_whole, origin_whole]
  exact if_pos rfl

end Path

theorem Change.shownPath_of_isRelative {s : Text} (h : Path.IsRelative s) (t : FileTree) (root : Path) :
    shownPath t root (root.join (.ofText s)) = .ok s := by
  have hjoin : root.join (.ofText s) = root.below (s.splitOn '/') := by
    rw [h.ofText_eq]
    rfl
  have hfrom : root.whole.from? (root.join (.ofText s)).whole = some (s.splitOn '/') := by
    rw [hjoin, Path.from?_whole_below, Path.normalNames_append fun n hn => (h n hn).2.2]
    exact List.isPrefixOf?_eq_some_iff_append_eq.mpr rfl
  have htext : Path.namesText (s.splitOn '/') = s := by
    rw [Path.namesText, if_neg (by simp)]
    exact List.intercalate_splitOn '/'
  rw [shownPath]
  simp only [hfrom, htext]
  rfl

end RuleReview
