import RuleReview.Proofs.Diff.Lossless

/-! # What lines open

A diff has one section for every line of its text that opens a section, and one hunk for every line that opens a hunk,
in their order and with these lines as their headers. No other line, wherever it stands, adds a section or a hunk.
-/
namespace RuleReview.Diff

theorem headers_outline (n : Nat) (ls : List Text) :
    (outline n ls).sections.map RawSection.header = ls.filter opensSection := by
  induction ls generalizing n with
  | nil => rfl
  | cons l ls ih =>
    simp only [outline]
    split
    · next hs => rw [List.map_cons, ih, List.filter_cons_of_pos hs]
    · next hs =>
      rw [List.filter_cons_of_neg hs]
      split <;> exact ih (n + 1)

theorem hunkHeaders_outline (n : Nat) (ls : List Text) :
    (outline n ls).hunks.map RawHunk.header ++ (outline n ls).sections.flatMap (·.hunks.map RawHunk.header) =
      ls.filter opensHunk := by
  induction ls generalizing n with
  | nil => rfl
  | cons l ls ih =>
    have h := ih (n + 1)
    simp only [outline]
    split
    · next hs =>
      have hh : ¬opensHunk l = true := fun hh => by simp [opensSection_of_opensHunk hh] at hs
      rw [List.filter_cons_of_neg hh, ← h, List.flatMap_cons]
      rfl
    · split
      · next hh =>
        rw [List.filter_cons_of_pos hh, ← h]
        rfl
      · next hh => rw [List.filter_cons_of_neg hh, ← h]

variable {s : Text} {d : Diff}

theorem headers_of_parse (h : Diff.parse s = .ok d) :
    d.sections.map (·.header.head?) = ((textLines s).1.filter opensSection).map some := by
  obtain ⟨-, hsections, -, -⟩ := parse_eq_ok.mp h
  rw [← headers_outline 1, List.map_map]
  refine map_eq_of_mapM (fun raw t ht => ?_) hsections
  have hheader : t.header = raw.header :: raw.extra := (readHeader_lines (readSection_eq_ok.mp ht).1).1
  rw [hheader]
  rfl

theorem hunkHeaders_of_parse (h : Diff.parse s = .ok d) :
    d.sections.flatMap (·.hunks.map Hunk.header) = (textLines s).1.filter opensHunk := by
  obtain ⟨hloose, hsections, -, -⟩ := parse_eq_ok.mp h
  rw [← hunkHeaders_outline 1, hloose, List.map_nil, List.nil_append]
  refine flatMap_eq_of_mapM (fun raw t ht => ?_) hsections
  exact map_eq_of_mapM (fun _ _ hk => (readHunk_lines hk).1) (readSection_eq_ok.mp ht).2

end RuleReview.Diff
