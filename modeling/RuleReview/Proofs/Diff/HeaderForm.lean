import RuleReview.Proofs.Decimal.Digits
import RuleReview.Proofs.Text.Cut
import RuleReview.Diff.Reader

/-! # The form of a hunk header

A hunk header spells a range for each side and then anything at all; a range is one numeral, or two with a comma
between them. A header is read exactly when it has this form, and it is read as the numerals that it spells.
-/
namespace RuleReview.Diff

/-- What a hunk header spells: where the hunk starts on each side, how long it is there if that is said, and the
heading. -/
structure HeaderForm where
  oldStart : Text
  oldCount : Option Text
  newStart : Text
  newCount : Option Text
  heading : Text

namespace HeaderForm

def rangeText (start : Text) (count : Option Text) : Text := start ++ count.elim [] (',' :: ·)

def text (f : HeaderForm) : Text :=
  "@@ -".toList ++ (rangeText f.oldStart f.oldCount ++ (" +".toList ++
    (rangeText f.newStart f.newCount ++ (" @@".toList ++ f.heading))))

def numerals (f : HeaderForm) : List Text :=
  f.oldStart :: f.oldCount.toList ++ f.newStart :: f.newCount.toList

/-- The line is what the form spells, and digits stand where numerals are meant. -/
structure Spells (f : HeaderForm) (line : Text) : Prop where
  text : line = f.text
  numerals : ∀ ds ∈ f.numerals, Text.IsNumeral ds

end HeaderForm

/-- A line `@@ -N,N +N,N @@` with anything behind it, where a second number may be left out with its comma. -/
def IsHunkHeader (line : Text) : Prop := ∃ f : HeaderForm, f.Spells line

/-- The numerals of the line, if it is a hunk header, are short enough to be read as numbers. -/
def NumeralsFit (line : Text) : Prop :=
  ∀ f : HeaderForm, f.Spells line → ∀ ds ∈ f.numerals, ds.length ≤ Numeral.digitLimit

variable {s rest line start count : Text} {f : HeaderForm}

theorem digits?_append {ds : Text} (hds : Text.IsNumeral ds) (hrest : ∀ c ∈ rest.head?, Text.isDigit c = false) :
    digits? (ds ++ rest) = some (ds, rest) := by
  obtain ⟨hne, hds⟩ := hds
  have htake : rest.takeWhile Text.isDigit = [] := by
    cases rest with
    | nil => rfl
    | cons c rest => simp [hrest c rfl]
  have hdrop : rest.dropWhile Text.isDigit = rest := by
    cases rest with
    | nil => rfl
    | cons c rest => simp [hrest c rfl]
  obtain ⟨d, ds, rfl⟩ := List.exists_cons_of_ne_nil hne
  simp only [digits?, List.takeWhile_append_of_pos hds, List.dropWhile_append_of_pos hds, htake, hdrop,
    List.append_nil]

theorem digits?_eq_some {ds : Text} (h : digits? s = some (ds, rest)) : Text.IsNumeral ds ∧ s = ds ++ rest := by
  rw [digits?] at h
  split at h
  · cases h
  · next hne =>
    cases h
    exact ⟨⟨hne, List.all_eq_true.mp List.all_takeWhile⟩, List.takeWhile_append_dropWhile.symm⟩

theorem range?_spelled {count : Option Text} (hs : Text.IsNumeral start) (hc : ∀ ds ∈ count, Text.IsNumeral ds)
    (rest : Text) (hrest : rest.head? = some ' ') :
    range? (HeaderForm.rangeText start count ++ rest) = some (start, count.getD "1", rest) := by
  obtain ⟨r, rfl⟩ : ∃ r, rest = ' ' :: r := List.head?_eq_some_iff.mp hrest
  have hblank : ∀ c ∈ (' ' :: r).head?, Text.isDigit c = false := by
    rintro c ⟨⟩
    decide
  cases count with
  | none => simp [HeaderForm.rangeText, range?, digits?_append hs hblank]
  | some ds =>
    have hcomma : ∀ c ∈ (',' :: (ds ++ ' ' :: r)).head?, Text.isDigit c = false := by
      rintro c ⟨⟩
      decide
    simp [HeaderForm.rangeText, range?, digits?_append hs hcomma, digits?_append (hc ds rfl) hblank]

theorem range?_eq_some (h : range? s = some (start, count, rest)) :
    Text.IsNumeral start ∧
      ∃ given : Option Text, (∀ ds ∈ given, Text.IsNumeral ds) ∧ s = HeaderForm.rangeText start given ++ rest := by
  simp only [range?, Option.bind_eq_bind, Option.bind_eq_some_iff] at h
  obtain ⟨⟨ds, r⟩, hds, h⟩ := h
  dsimp only at h
  obtain ⟨hstart, rfl⟩ := digits?_eq_some hds
  split at h
  · next r =>
    obtain ⟨⟨cs, r'⟩, hcs, h⟩ := Option.bind_eq_some_iff.mp h
    cases h
    obtain ⟨hcount, rfl⟩ := digits?_eq_some hcs
    exact ⟨hstart, some cs, by simpa using hcount, by simp [HeaderForm.rangeText]⟩
  · cases h
    exact ⟨hstart, none, by simp, by simp [HeaderForm.rangeText]⟩

theorem HeaderForm.forall_mem_numerals {P : Text → Prop} :
    (∀ ds ∈ f.numerals, P ds) ↔
      P f.oldStart ∧ (∀ ds ∈ f.oldCount, P ds) ∧ P f.newStart ∧ ∀ ds ∈ f.newCount, P ds := by
  simp only [numerals, List.cons_append, List.forall_mem_cons, List.forall_mem_append, Option.mem_toList,
    Option.mem_def]

theorem HeaderForm.Spells.headerParts? (h : f.Spells line) :
    headerParts? line =
      some ((f.oldStart, f.oldCount.getD "1"), (f.newStart, f.newCount.getD "1"), f.heading) := by
  obtain ⟨rfl, hnumerals⟩ := h
  obtain ⟨hos, hoc, hns, hnc⟩ := HeaderForm.forall_mem_numerals.mp hnumerals
  have hnew := range?_spelled hns hnc (" @@".toList ++ f.heading) rfl
  have hold := range?_spelled hos hoc
    (" +".toList ++ (HeaderForm.rangeText f.newStart f.newCount ++ (" @@".toList ++ f.heading))) rfl
  rw [Diff.headerParts?, HeaderForm.text]
  simp only [Text.after?_append, hold, hnew, Option.bind_eq_bind, Option.bind_some, Option.pure_def]

theorem exists_spells {parts : (Text × Text) × (Text × Text) × Text} (h : headerParts? line = some parts) :
    ∃ f : HeaderForm, f.Spells line := by
  simp only [Diff.headerParts?, Option.bind_eq_bind, Option.bind_eq_some_iff] at h
  obtain ⟨r₁, h₁, ⟨os, oc, r₂⟩, h₂, r₃, h₃, ⟨ns, nc, r₄⟩, h₄, heading, h₅, -⟩ := h
  dsimp only at h₂ h₃ h₄ h₅
  obtain ⟨hos, oldCount, hoc, rfl⟩ := range?_eq_some h₂
  obtain ⟨hns, newCount, hnc, rfl⟩ := range?_eq_some h₄
  rw [Text.after?_eq_some] at h₁ h₃ h₅
  refine ⟨⟨os, oldCount, ns, newCount, heading⟩, ?_, HeaderForm.forall_mem_numerals.mpr ⟨hos, hoc, hns, hnc⟩⟩
  rw [h₁, h₃, h₅, HeaderForm.text]

theorem heading_suffix {heading : Text} {old new : Text × Text}
    (h : headerParts? line = some (old, new, heading)) : heading <:+ line := by
  obtain ⟨f, hf⟩ := exists_spells h
  have hheading := congrArg (fun parts => parts.2.2) (Option.some.inj (hf.headerParts?.symm.trans h))
  obtain rfl : f.heading = heading := hheading
  rw [hf.text, HeaderForm.text]
  simp only [← List.append_assoc]
  exact List.suffix_append _ _

theorem isHunkHeader_iff : IsHunkHeader line ↔ (headerParts? line).isSome = true := by
  constructor
  · rintro ⟨f, hf⟩
    rw [hf.headerParts?]
    rfl
  · intro h
    obtain ⟨parts, hparts⟩ := Option.isSome_iff_exists.mp h
    exact exists_spells hparts

instance : Decidable (IsHunkHeader line) := decidable_of_iff _ isHunkHeader_iff.symm

theorem numeralsFit_of_length_le (h : line.length ≤ Numeral.digitLimit) : NumeralsFit line := by
  rintro f ⟨rfl, -⟩
  refine HeaderForm.forall_mem_numerals.mpr ?_
  have hrange : ∀ (start : Text) (count : Option Text), start.length ≤ (HeaderForm.rangeText start count).length ∧
      ∀ ds ∈ count, ds.length ≤ (HeaderForm.rangeText start count).length := by
    intro start count
    cases count <;> simp [HeaderForm.rangeText]
    omega
  simp only [HeaderForm.text, List.length_append] at h
  obtain ⟨hos, hoc⟩ := hrange f.oldStart f.oldCount
  obtain ⟨hns, hnc⟩ := hrange f.newStart f.newCount
  exact ⟨by omega, fun ds hds => (hoc ds hds).trans (by omega), by omega, fun ds hds => (hnc ds hds).trans (by omega)⟩

theorem exists_numberOf {ds : Text} (h : ds.length ≤ Numeral.digitLimit) : ∃ n, numberOf ds = .ok n :=
  ⟨_, by rw [numberOf, if_neg (Nat.not_lt.mpr h)]⟩

/-- A hunk whose header has the form can be read when its numerals are not too long. -/
theorem exists_readHunk (hline : IsHunkHeader line) (hfit : NumeralsFit line) (n : ℕ) (body : List Text) :
    ∃ h, readHunk ⟨line, n, body⟩ = .ok h := by
  obtain ⟨f, hf⟩ := hline
  obtain ⟨hos, hoc, hns, hnc⟩ := HeaderForm.forall_mem_numerals.mp (hfit f hf)
  have hcount : ∀ count : Option Text, (∀ ds ∈ count, ds.length ≤ Numeral.digitLimit) →
      ∃ m, numberOf (count.getD "1") = .ok m := by
    rintro (_ | ds) hds
    · exact ⟨1, rfl⟩
    · exact exists_numberOf (hds ds rfl)
  obtain ⟨a, ha⟩ := exists_numberOf hos
  obtain ⟨b, hb⟩ := hcount _ hoc
  obtain ⟨c, hc⟩ := exists_numberOf hns
  obtain ⟨d, hd⟩ := hcount _ hnc
  exact ⟨_, by simp only [readHunk, hf.headerParts?, ha, hb, hc, hd]; rfl⟩

theorem readHunk_of_not (hline : ¬IsHunkHeader line) (n : ℕ) (body : List Text) :
    readHunk ⟨line, n, body⟩ = .error (.diff (some n) (.badHunkHeader line)) := by
  rw [isHunkHeader_iff, Option.not_isSome_iff_eq_none] at hline
  rw [readHunk, hline]

end RuleReview.Diff
