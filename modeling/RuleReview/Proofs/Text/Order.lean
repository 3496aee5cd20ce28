import Mathlib.Data.List.Pairwise
import RuleReview.FileTree.Folder

/-! # The order of texts

Texts are ordered by their first difference, which is the order of the library on lists. Sorted texts are sorted in one
way only, so that sorting and dropping some of them can be done in either order.
-/
namespace RuleReview

namespace Text
variable {s t u : Text}

theorem le_iff : le s t = true ↔ @LE.le (List Char) List.instLE s t := by
  induction s generalizing t with
  | nil => simp [le]
  | cons c s ih =>
    match t with
    | [] => simp [le]
    | d :: t => simp [le, List.cons_le_cons_iff, ih]

theorem le_trans (hst : le s t = true) (htu : le t u = true) : le s u = true :=
  le_iff.mpr (List.le_trans (le_iff.mp hst) (le_iff.mp htu))

theorem le_total (s t : Text) : (le s t || le t s) = true := by
  rw [Bool.or_eq_true, le_iff, le_iff]
  exact List.le_total s t

theorem le_antisymm (hst : le s t = true) (hts : le t s = true) : s = t :=
  List.le_antisymm (le_iff.mp hst) (le_iff.mp hts)

def Before (s t : Text) : Prop := le s t = true ∧ s ≠ t

instance (s t : Text) : Decidable (Before s t) := inferInstanceAs (Decidable (_ ∧ _))

end Text

namespace Entry
variable {l m : List Text}

theorem pairwise_sortTexts (l : List Text) : (sortTexts l).Pairwise fun a b => Text.le a b = true :=
  @List.pairwise_mergeSort _ Text.le (fun _ _ _ => Text.le_trans) Text.le_total l

theorem sortTexts_eq (hperm : l.Perm m) (hm : m.Pairwise fun a b => Text.le a b = true) : sortTexts l = m :=
  ((List.mergeSort_perm l Text.le).trans hperm).eq_of_pairwise (fun _ _ _ _ => Text.le_antisymm) (pairwise_sortTexts l) hm

theorem sortTexts_filter (p : Text → Bool) (l : List Text) : sortTexts (l.filter p) = (sortTexts l).filter p :=
  sortTexts_eq ((List.mergeSort_perm l Text.le).symm.filter p) ((pairwise_sortTexts l).filter p)

end Entry

end RuleReview
