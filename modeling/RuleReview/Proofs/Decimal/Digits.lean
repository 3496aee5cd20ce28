import RuleReview.Decimal.Numeral

/-! # The digits of a number

The numeral of a number has digits only, stands for the number, and is within the limit exactly when the
number can be written.
-/
namespace RuleReview

namespace Text

theorem digitValue?_of_isDigit {c : Char} (h : c.isDigit = true) : digitValue? c = some (c.toNat - 48) := by
  obtain ⟨hlo, hhi⟩ : 48 ≤ c.toNat ∧ c.toNat ≤ 57 := by simpa [Char.isDigit_iff_toNat] using h
  have hzero : (0x30 ≤ c.toNat && c.toNat < 0x30 + 10) = true := by
    simp only [Bool.and_eq_true, decide_eq_true_eq]
    omega
  have hfind : digitZeros.find? (fun z => z ≤ c.toNat && c.toNat < z + 10) = some 0x30 :=
    List.find?_cons_of_pos hzero
  rw [digitValue?, hfind]
  rfl

theorem isDigit_of_mem_ofNat {n : Nat} {c : Char} (h : c ∈ ofNat n) : isDigit c = true := by
  have hc : c.isDigit = true := Nat.isDigit_of_mem_toDigits (by decide) (by decide) h
  rw [isDigit, digitValue?_of_isDigit hc]
  rfl

theorem ofNat_ne_nil (n : Nat) : ofNat n ≠ [] := Nat.toDigits_ne_nil

/-- Digits of any script, and at least one. -/
def IsNumeral (ds : Text) : Prop := ds ≠ [] ∧ ∀ c ∈ ds, isDigit c = true

theorem isNumeral_ofNat (n : Nat) : IsNumeral (ofNat n) := ⟨ofNat_ne_nil n, fun _ hc => isDigit_of_mem_ofNat hc⟩

theorem numberOfDigits_ofNat (n : Nat) : numberOfDigits (ofNat n) = n := by
  have hstep : ∀ ds : Text, (∀ c ∈ ds, c.isDigit = true) → ∀ k,
      ds.foldl (fun n c => 10 * n + (digitValue? c).getD 0) k = Nat.ofDigitChars 10 ds k := by
    intro ds hds
    induction ds with
    | nil => exact fun k => rfl
    | cons c ds ih =>
      obtain ⟨hc, hds⟩ := List.forall_mem_cons.mp hds
      intro k
      rw [List.foldl_cons, Nat.ofDigitChars_cons, digitValue?_of_isDigit hc]
      exact ih hds _
  rw [numberOfDigits, ofNat, hstep _ fun c hc => Nat.isDigit_of_mem_toDigits (by decide) (by decide) hc]
  exact Nat.ofDigitChars_ten_toDigits

end Text

namespace Numeral

theorem isWritable_iff {n : Int} : isWritable n = true ↔ n.natAbs < Nat.pow 10 digitLimit := by
  rw [isWritable, decide_eq_true_eq]

theorem length_ofNat_le_iff (n : Nat) : (Text.ofNat n).length ≤ digitLimit ↔ isWritable n = true := by
  rw [Text.ofNat, Nat.length_toDigits_le_iff (by decide) (by decide), isWritable_iff, Int.natAbs_natCast,
    Nat.pow_eq]

theorem isWritable_of_le {a b : Int} (ha : 0 ≤ a) (hab : a ≤ b) (hb : isWritable b = true) :
    isWritable a = true := by
  have habs : a.natAbs ≤ b.natAbs := by omega
  rw [isWritable_iff] at hb ⊢
  exact Nat.lt_of_le_of_lt habs hb

theorem pow_digitLimit_pos : 0 < Nat.pow 10 digitLimit := by
  rw [Nat.pow_eq]
  exact Nat.pow_pos (by decide)

def greatest : Nat := Nat.pow 10 digitLimit - 1

theorem isWritable_greatest : isWritable greatest = true := by
  have hpos := pow_digitLimit_pos
  rw [isWritable_iff, Int.natAbs_natCast, greatest]
  omega

theorem not_isWritable_greatest_add_one : ¬ isWritable ((greatest : Int) + 1) = true := by
  have hpos := pow_digitLimit_pos
  have hnext : ((greatest : Int) + 1).natAbs = Nat.pow 10 digitLimit := by
    rw [greatest]
    omega
  rw [isWritable_iff, hnext]
  exact Nat.lt_irrefl _

end Numeral

end RuleReview
