import RuleReview.Diff.Reader

/-! # Outlines of lines

An outline holds exactly the lines that it was made from, in their order, and every line stands where it belongs:
`diff --git` lines open sections, `@@` lines open hunks, and no other line opens anything.
-/
namespace RuleReview.Diff

def RawHunk.lines (h : RawHunk) : List Text := h.header :: h.body

def RawSection.lines (s : RawSection) : List Text := s.header :: s.extra ++ s.hunks.flatMap RawHunk.lines

def Outline.lines (o : Outline) : List Text :=
  o.loose ++ o.hunks.flatMap RawHunk.lines ++ o.sections.flatMap RawSection.lines

theorem lines_outline (n : Nat) (ls : List Text) : (outline n ls).lines = ls := by
  induction ls generalizing n with
  | nil => rfl
  | cons l ls ih =>
    have h := ih (n + 1)
    rw [Outline.lines] at h
    simp only [outline]
    split
    · simp [Outline.lines, RawSection.lines, h]
    · split
      · simp [Outline.lines, RawHunk.lines, h]
      · simp [Outline.lines, h]

/-- A line that opens neither a section nor a hunk. -/
structure IsPlain (l : Text) : Prop where
  noSection : opensSection l = false
  noHunk : opensHunk l = false
  noBreak : '\n' ∉ l

/-- A hunk is opened by its header and by no other line. -/
structure RawHunk.Grouped (h : RawHunk) : Prop where
  opens : opensHunk h.header = true
  noBreak : '\n' ∉ h.header
  body : ∀ l ∈ h.body, IsPlain l

/-- A section is opened by its header, and its further lines belong to its hunks or open nothing. -/
structure RawSection.Grouped (s : RawSection) : Prop where
  opens : opensSection s.header = true
  noBreak : '\n' ∉ s.header
  extra : ∀ l ∈ s.extra, IsPlain l
  hunks : ∀ h ∈ s.hunks, h.Grouped

structure Outline.Grouped (o : Outline) : Prop where
  loose : ∀ l ∈ o.loose, IsPlain l
  hunks : ∀ h ∈ o.hunks, h.Grouped
  sections : ∀ s ∈ o.sections, s.Grouped

theorem outline_grouped (n : Nat) {ls : List Text} (h : ∀ l ∈ ls, '\n' ∉ l) : (outline n ls).Grouped := by
  induction ls generalizing n with
  | nil => constructor <;> simp [outline]
  | cons l ls ih =>
    obtain ⟨hloose, hhunks, hsections⟩ := ih (n + 1) fun k hk => h k (List.mem_cons_of_mem l hk)
    have hl := h l List.mem_cons_self
    simp only [outline]
    split
    · next hs =>
      have hnew : RawSection.Grouped ⟨l, (outline (n + 1) ls).loose, (outline (n + 1) ls).hunks⟩ :=
        ⟨hs, hl, hloose, hhunks⟩
      exact ⟨by simp, by simp, List.forall_mem_cons.mpr ⟨hnew, hsections⟩⟩
    · next hs =>
      split
      · next hh =>
        have hnew : RawHunk.Grouped ⟨l, n, (outline (n + 1) ls).loose⟩ := ⟨hh, hl, hloose⟩
        exact ⟨by simp, List.forall_mem_cons.mpr ⟨hnew, hhunks⟩, hsections⟩
      · next hh =>
        have hnew : IsPlain l := ⟨by simpa using hs, by simpa using hh, hl⟩
        exact ⟨List.forall_mem_cons.mpr ⟨hnew, hloose⟩, hhunks, hsections⟩

theorem outline_plain {ls : List Text} (h : ∀ l ∈ ls, IsPlain l) (rest : List Text) (n : Nat) :
    outline n (ls ++ rest) =
      { outline (n + ls.length) rest with loose := ls ++ (outline (n + ls.length) rest).loose } := by
  induction ls generalizing n with
  | nil => rfl
  | cons l ls ih =>
    obtain ⟨hl, h⟩ := List.forall_mem_cons.mp h
    have hn : n + 1 + ls.length = n + (l :: ls).length := by simp only [List.length_cons]; omega
    simp [outline, hl.noSection, hl.noHunk, ih h (n + 1), hn]

theorem outline_section {mark : Text} (h : opensSection mark = true) (ls : List Text) (n : Nat) :
    outline n (mark :: ls) =
      ⟨[], [],
        ⟨mark, (outline (n + 1) ls).loose, (outline (n + 1) ls).hunks⟩ :: (outline (n + 1) ls).sections⟩ := by
  simp [outline, h]

theorem opensSection_of_opensHunk {l : Text} (h : opensHunk l = true) : opensSection l = false := by
  obtain ⟨s, rfl⟩ := List.isPrefixOf_iff_prefix.mp h
  rfl

theorem outline_hunk {header : Text} (h : opensHunk header = true) (ls : List Text) (n : Nat) :
    outline n (header :: ls) =
      ⟨[], ⟨header, n, (outline (n + 1) ls).loose⟩ :: (outline (n + 1) ls).hunks,
        (outline (n + 1) ls).sections⟩ := by
  simp [outline, h, opensSection_of_opensHunk h]

end RuleReview.Diff
