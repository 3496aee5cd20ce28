import RuleReview.Proofs.Diff.HeaderForm
import RuleReview.Proofs.Success
import RuleReview.Diff.Slim

/-! # Hunk headers that were written

A header that was written anew is read with the same four numbers and the same heading, as long as its numbers
can be written at all.
-/
namespace RuleReview.Diff

theorem formatHeader_eq (a b c d : Nat) (heading : Text) :
    Hunk.formatHeader a b c d heading =
      "@@ -".toList ++ (Text.ofNat a ++ ',' :: (Text.ofNat b ++ (" +".toList ++
        (Text.ofNat c ++ ',' :: (Text.ofNat d ++ (" @@".toList ++ heading)))))) := by
  simp [Hunk.formatHeader, Text.concat, Text.ofInt]

theorem headerParts?_formatHeader (a b c d : Nat) (heading : Text) :
    headerParts? (Hunk.formatHeader a b c d heading) =
      some ((Text.ofNat a, Text.ofNat b), (Text.ofNat c, Text.ofNat d), heading) := by
  let f : HeaderForm := ⟨Text.ofNat a, some (Text.ofNat b), Text.ofNat c, some (Text.ofNat d), heading⟩
  have hf : f.Spells (Hunk.formatHeader a b c d heading) := by
    refine ⟨?_, HeaderForm.forall_mem_numerals.mpr ?_⟩
    · rw [formatHeader_eq]
      simp [f, HeaderForm.text, HeaderForm.rangeText]
    · simp [f, Text.isNumeral_ofNat]
  exact hf.headerParts?

theorem suffix_of_after? {s p rest : Text} (h : s.after? p = some rest) : rest <:+ s :=
  ⟨p, (Text.after?_eq_some.mp h).symm⟩

theorem opensHunk_formatHeader (a b c d : Nat) (heading : Text) :
    opensHunk (Hunk.formatHeader a b c d heading) = true := by
  rw [formatHeader_eq]
  rfl

theorem newline_notMem_ofNat (n : Nat) : '\n' ∉ Text.ofNat n := by
  intro h
  exact absurd (Text.isDigit_of_mem_ofNat h) (by decide)

theorem newline_notMem_formatHeader (a b c d : Nat) {heading : Text} (h : '\n' ∉ heading) :
    '\n' ∉ Hunk.formatHeader a b c d heading := by
  rw [formatHeader_eq]
  simp [newline_notMem_ofNat, h]

theorem numberOf_ofNat {n : Nat} (h : Numeral.isWritable n = true) : numberOf (Text.ofNat n) = .ok (n : Int) := by
  have hlen : ¬ Numeral.digitLimit < (Text.ofNat n).length :=
    Nat.not_lt.mpr ((Numeral.length_ofNat_le_iff n).mpr h)
  rw [numberOf, if_neg hlen, Text.numberOfDigits_ofNat]

theorem nonneg_of_numberOf {ds : Text} {n : Int} (h : numberOf ds = .ok n) : 0 ≤ n := by
  rw [numberOf] at h
  split at h
  · cases h
  · cases h
    exact Int.natCast_nonneg _

theorem readHunk_eq_ok {raw : RawHunk} {h : Hunk} (hr : readHunk raw = .ok h) :
    0 ≤ h.oldStart ∧ 0 ≤ h.oldCount ∧ 0 ≤ h.newStart ∧ 0 ≤ h.newCount ∧ h.heading <:+ raw.header := by
  rw [readHunk] at hr
  cases hp : headerParts? raw.header with
  | none => simp [hp] at hr
  | some parts =>
    obtain ⟨old, new, heading⟩ := parts
    simp only [hp, bind_eq_ok, pure_eq_ok] at hr
    obtain ⟨a, ha, b, hb, c, hc, d, hd, rfl⟩ := hr
    exact ⟨nonneg_of_numberOf ha, nonneg_of_numberOf hb, nonneg_of_numberOf hc, nonneg_of_numberOf hd,
      heading_suffix hp⟩

theorem readHunk_of_headerParts? {h : Hunk} {a b c d : Nat} (ha : h.oldStart = a) (hb : h.oldCount = b)
    (hc : h.newStart = c) (hd : h.newCount = d) (hw : h.isWritable = true)
    (hh : headerParts? h.header = some ((Text.ofNat a, Text.ofNat b), (Text.ofNat c, Text.ofNat d), h.heading))
    (number : Nat) : readHunk ⟨h.header, number, h.lines⟩ = .ok h := by
  obtain ⟨oldStart, oldCount, newStart, newCount, heading, header, lines⟩ := h
  dsimp only at *
  subst ha hb hc hd
  simp only [Hunk.isWritable, List.all_cons, List.all_nil, Bool.and_true, Bool.and_eq_true] at hw
  obtain ⟨hwa, hwb, hwc, hwd⟩ := hw
  simp only [readHunk, hh, numberOf_ofNat hwa, numberOf_ofNat hwb, numberOf_ofNat hwc, numberOf_ofNat hwd]
  rfl

theorem readHunk_formatHeader {h : Hunk} {a b c d : Nat} (ha : h.oldStart = a) (hb : h.oldCount = b)
    (hc : h.newStart = c) (hd : h.newCount = d) (hw : h.isWritable = true)
    (hh : h.header = Hunk.formatHeader h.oldStart h.oldCount h.newStart h.newCount h.heading) (number : Nat) :
    readHunk ⟨h.header, number, h.lines⟩ = .ok h := by
  refine readHunk_of_headerParts? ha hb hc hd hw ?_ number
  rw [hh, ha, hb, hc, hd, headerParts?_formatHeader]

end RuleReview.Diff
