import Mathlib.Data.List.DropRight
import RuleReview.Text.Glyph

/-! # Trimmed texts

Trimming leaves a text that trimming leaves alone, and never makes a text blank or stops it from being blank.
-/
namespace RuleReview

section Ends
variable {α : Type} (p : α → Bool) (l : List α)

theorem dropWhile_rdropWhile : ((l.dropWhile p).rdropWhile p).dropWhile p = (l.dropWhile p).rdropWhile p := by
  refine List.dropWhile_eq_self_iff.mpr fun hpos => ?_
  have hprefix := List.rdropWhile_prefix p (l.dropWhile p)
  have hhead := hprefix.getElem hpos
  rw [hhead]
  exact List.dropWhile_get_zero_not p l (hpos.trans_le hprefix.length_le)

theorem rdropWhile_dropWhile_eq_nil : (l.dropWhile p).rdropWhile p = [] ↔ l.all p = true := by
  rw [List.rdropWhile_eq_nil_iff, List.all_eq_true]
  refine ⟨fun h a ha => ?_, fun h a ha => h a ((List.dropWhile_suffix p).subset ha)⟩
  rcases List.mem_append.mp ((List.takeWhile_append_dropWhile (p := p) (l := l)).symm ▸ ha) with hl | hr
  · exact List.mem_takeWhile_imp hl
  · exact h a hr

end Ends

namespace Text

/-- A text without blanks around it that is not blank itself. -/
structure IsTrimmed (s : Text) : Prop where
  trim_eq : s.trim = s
  notBlank : s.isBlankText = false

instance (s : Text) : Decidable s.IsTrimmed :=
  decidable_of_iff (s.trim = s ∧ s.isBlankText = false) ⟨fun h => ⟨h.1, h.2⟩, fun h => ⟨h.1, h.2⟩⟩

theorem dropTrailing_append_cons {p : Char → Bool} {c : Char} (hc : p c = false) (a b : Text) :
    dropTrailing p (a ++ c :: b) = a ++ c :: dropTrailing p b := by
  have hkept : (c :: a.reverse).dropWhile p = c :: a.reverse := List.dropWhile_cons_of_neg (by simp [hc])
  have hreverse : (a ++ c :: b).reverse = b.reverse ++ c :: a.reverse := by simp
  rw [dropTrailing, hreverse, List.dropWhile_append, hkept, dropTrailing]
  split
  · next hnil => simp [List.isEmpty_iff.mp hnil]
  · simp

theorem exists_dropTrailing (p : Char → Bool) (s : Text) : ∃ dropped, s = dropTrailing p s ++ dropped ∧
    (∀ c ∈ dropped, p c = true) ∧ ∀ c, (dropTrailing p s).getLast? = some c → p c = false := by
  refine ⟨(s.reverse.takeWhile p).reverse, ?_, fun c hc => ?_, fun c hc => ?_⟩
  · rw [dropTrailing, ← List.reverse_append, List.takeWhile_append_dropWhile, List.reverse_reverse]
  · exact List.mem_takeWhile_imp (List.mem_reverse.mp hc)
  · rw [dropTrailing, List.getLast?_reverse] at hc
    have hhead := List.head?_dropWhile_not p s.reverse
    rw [hc] at hhead
    simpa using hhead

theorem exists_trim (s : Text) :
    ∃ a b, s = a ++ s.trim ++ b ∧ (∀ c ∈ a, isBlank c = true) ∧ ∀ c ∈ b, isBlank c = true := by
  obtain ⟨b, hb, hblank, -⟩ := exists_dropTrailing isBlank s.trimStart
  refine ⟨s.takeWhile isBlank, b, ?_, fun c hc => List.mem_takeWhile_imp hc, hblank⟩
  have hstart : s = s.takeWhile isBlank ++ s.trimStart := List.takeWhile_append_dropWhile.symm
  rw [trim, trimEnd, List.append_assoc, ← hb, ← hstart]

theorem trimStart_trim (s : Text) : s.trim.trimStart = s.trim := dropWhile_rdropWhile isBlank s

@[simp] theorem trim_trim (s : Text) : s.trim.trim = s.trim := by
  rw [trim, trimStart_trim]
  exact List.rdropWhile_idempotent isBlank s.trimStart

theorem trim_of_notBlank {s : Text} (h : ∀ c ∈ s, isBlank c = false) : s.trim = s := by
  obtain ⟨a, b, hs, ha, hb⟩ := exists_trim s
  have hnil {r : Text} (hr : ∀ c ∈ r, isBlank c = true) (hsub : r ⊆ s) : r = [] := by
    refine List.eq_nil_iff_forall_not_mem.mpr fun c hc => ?_
    have hblank := hr c hc
    rw [h c (hsub hc)] at hblank
    cases hblank
  have hafront : a ⊆ s := by
    rw [hs, List.append_assoc]
    exact List.subset_append_left a _
  have hbend : b ⊆ s := by
    rw [hs]
    exact List.subset_append_right _ b
  rw [hnil ha hafront, hnil hb hbend, List.nil_append, List.append_nil] at hs
  exact hs.symm

theorem trim_eq_nil {s : Text} : s.trim = [] ↔ s.isBlankText = true := rdropWhile_dropWhile_eq_nil isBlank s

@[simp] theorem isBlankText_trim (s : Text) : s.trim.isBlankText = s.isBlankText := by
  rw [Bool.eq_iff_iff, ← trim_eq_nil, trim_trim, trim_eq_nil]

theorem isTrimmed_trim {s : Text} (h : s.isBlankText = false) : s.trim.IsTrimmed :=
  ⟨s.trim_trim, by rw [isBlankText_trim, h]⟩

theorem isTrimmed_trim_iff {s : Text} : s.trim.IsTrimmed ↔ s.trim ≠ [] := by
  rw [Ne, trim_eq_nil, Bool.not_eq_true]
  exact ⟨fun h => by simpa using h.notBlank, isTrimmed_trim⟩

end Text

namespace Glyphs
variable {g : Glyphs}

/-- Glyphs without blanks around them that are not blank themselves. -/
structure IsTrimmed (g : Glyphs) : Prop where
  trim_eq : g.trim = g
  notBlank : g.isBlankText = false

theorem trim_trim (g : Glyphs) : g.trim.trim = g.trim := by
  have hfront : g.trim.dropWhile isBlank = g.trim := dropWhile_rdropWhile isBlank g
  have hback : g.trim.rdropWhile isBlank = g.trim := List.rdropWhile_idempotent isBlank (g.dropWhile isBlank)
  rw [trim, hfront]
  exact hback

theorem trim_eq_nil : g.trim = [] ↔ g.isBlankText = true := rdropWhile_dropWhile_eq_nil isBlank g

theorem isTrimmed_trim (h : g.isBlankText = false) : g.trim.IsTrimmed := by
  refine ⟨trim_trim g, ?_⟩
  rw [Bool.eq_false_iff, Ne, ← trim_eq_nil, trim_trim, trim_eq_nil, h]
  exact Bool.false_ne_true

end Glyphs

end RuleReview
