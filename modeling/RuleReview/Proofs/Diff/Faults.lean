import RuleReview.Proofs.Diff.Escapes
import RuleReview.Proofs.Diff.HeaderForm

/-! # Where reading fails

Reading fails at the first line that is at fault, whatever comes behind it. A line that begins with `@@` is at fault
when no section was opened before it or when it is no hunk header; of the other lines only one that opens a section
can be, by a name that is read twice.
-/
namespace RuleReview.Diff
variable {s line : Text} {ls : List Text} {opened : Bool} {n i : ℕ} {f : Failure} {p : DiffProblem}

/-- What is wrong with a line that has a number, when sections were opened before it or none was. -/
def lineFault? (opened : Bool) (n : ℕ) (line : Text) : Option Failure :=
  if opensSection line then failure? (headerPaths line)
  else if opensHunk line then
    if ¬opened then some (.diff (some n) .strayHunk)
    else if IsHunkHeader line then none
    else some (.diff (some n) (.badHunkHeader line))
  else none

/-- What is wrong with the line at a place, when the first line has a number. -/
def faultAt? (opened : Bool) (n : ℕ) (ls : List Text) (i : ℕ) : Option Failure :=
  ls[i]?.bind (lineFault? (opened || (ls.take i).any opensSection) (n + i))

theorem faultAt?_zero (l : Text) (ls : List Text) : faultAt? opened n (l :: ls) 0 = lineFault? opened n l := by
  simp [faultAt?]

theorem faultAt?_succ (l : Text) (ls : List Text) :
    faultAt? opened n (l :: ls) (i + 1) = faultAt? (opened || opensSection l) (n + 1) ls i := by
  simp only [faultAt?, List.getElem?_cons_succ, List.take_succ_cons, List.any_cons, Bool.or_assoc, Nat.add_assoc,
    Nat.add_comm 1 i]

/-- What is wrong with an outline: with the first hunk that stands before the sections, unless some section was opened
earlier, and else with the first hunk or section that cannot be read. -/
def Outline.fault? (opened : Bool) (o : Outline) : Option Failure :=
  (if opened then o.hunks.findSome? fun h => failure? (readHunk h)
    else o.hunks.head?.map fun h => .diff (some h.number) .strayHunk).or
  (o.sections.findSome? fun s => failure? (readSection s))

theorem failure?_parse (s : Text) : failure? (Diff.parse s) = (outline 1 (textLines s).1).fault? false := by
  rw [Diff.parse, ofOutline, Outline.fault?]
  cases (outline 1 (textLines s).1).hunks with
  | nil =>
    rw [failure?_bind (o := none) fun _ _ => rfl, failure?_mapM, Option.or_none]
    rfl
  | cons h hs => rfl

theorem failure?_readHunk (hline : NumeralsFit line) (body : List Text) :
    failure? (readHunk ⟨line, n, body⟩) =
      if IsHunkHeader line then none else some (.diff (some n) (.badHunkHeader line)) := by
  split
  · next hform => exact failure?_eq_none.mpr (exists_readHunk hform hline n body)
  · next hform => exact failure?_eq_some.mpr (readHunk_of_not hform n body)

theorem failure?_readHeader {extra : List Text} (h : ∀ l ∈ extra, EscapesFit l) (mark : Text) :
    failure? (readHeader mark extra) = failure? (headerPaths mark) := by
  have hlines : ∀ s : Section, failure? (extra.foldlM applyHeaderLine s) = none := fun s =>
    failure?_eq_none.mpr (EscapesFit.exists_applyHeaderLines h s)
  rw [readHeader, failure?_bind fun _ _ => hlines _, Option.or_none]

theorem failure?_readSection (raw : RawSection) (h : ∀ l ∈ raw.extra, EscapesFit l) :
    failure? (readSection raw) =
      (failure? (headerPaths raw.header)).or (raw.hunks.findSome? fun h => failure? (readHunk h)) := by
  have hhunks : ∀ s : Section, failure? (raw.hunks.mapM readHunk >>= fun hunks => pure { s with hunks }) =
      raw.hunks.findSome? fun h => failure? (readHunk h) := by
    intro s
    rw [failure?_bind (o := none) fun _ _ => rfl, Option.or_none, failure?_mapM]
  rw [readSection, failure?_bind fun s _ => hhunks s, failure?_readHeader h]

theorem loose_outline_subset (n : ℕ) (ls : List Text) : (outline n ls).loose ⊆ ls := by
  intro l hl
  rw [← lines_outline n ls, Outline.lines]
  exact List.mem_append_left _ (List.mem_append_left _ hl)

theorem fault?_outline_cons {l : Text} (hl : NumeralsFit l) (hls : ∀ k ∈ ls, EscapesFit k) :
    (outline n (l :: ls)).fault? opened =
      (lineFault? opened n l).or ((outline (n + 1) ls).fault? (opened || opensSection l)) := by
  by_cases hs : opensSection l = true
  · have hsection := failure?_readSection ⟨l, (outline (n + 1) ls).loose, (outline (n + 1) ls).hunks⟩
      fun k hk => hls k (loose_outline_subset _ ls hk)
    rw [outline_section hs, lineFault?, if_pos hs, hs, Bool.or_true]
    simp only [Outline.fault?, List.findSome?_nil, List.head?_nil, Option.map_none, ite_self, Option.none_or,
      findSome?_cons_or, hsection, if_true, Option.or_assoc]
  · rw [Bool.not_eq_true] at hs
    by_cases hh : opensHunk l = true
    · rw [outline_hunk hh, lineFault?, hs, if_neg Bool.false_ne_true, if_pos hh, Bool.or_false]
      cases opened with
      | false => rfl
      | true =>
        simp only [Outline.fault?, if_true, findSome?_cons_or, failure?_readHunk hl, Option.or_assoc,
          not_true_eq_false, if_false]
    · rw [lineFault?, hs, if_neg Bool.false_ne_true, if_neg hh, Bool.or_false, Option.none_or]
      simp only [outline, hs, if_neg hh, Bool.false_eq_true, if_false, Outline.fault?]

theorem fault?_outline (hls : ∀ l ∈ ls, EscapesFit l ∧ NumeralsFit l) :
    (outline n ls).fault? opened = some f ↔
      ∃ i, faultAt? opened n ls i = some f ∧ ∀ j < i, faultAt? opened n ls j = none := by
  induction ls generalizing opened n with
  | nil => cases opened <;> simp [outline, Outline.fault?, faultAt?]
  | cons l ls ih =>
    obtain ⟨hl, hls⟩ := List.forall_mem_cons.mp hls
    rw [fault?_outline_cons hl.2 fun k hk => (hls k hk).1, Option.or_eq_some_iff, ih hls]
    constructor
    · rintro (hfirst | ⟨hnone, i, hi, hbefore⟩)
      · exact ⟨0, (faultAt?_zero l ls).trans hfirst, by simp⟩
      · refine ⟨i + 1, (faultAt?_succ l ls).trans hi, fun j hj => ?_⟩
        cases j with
        | zero => exact (faultAt?_zero l ls).trans hnone
        | succ j => exact (faultAt?_succ l ls).trans (hbefore j (Nat.lt_of_succ_lt_succ hj))
    · rintro ⟨i, hi, hbefore⟩
      cases i with
      | zero => exact .inl ((faultAt?_zero l ls).symm.trans hi)
      | succ i =>
        refine .inr ⟨(faultAt?_zero l ls).symm.trans (hbefore 0 (Nat.succ_pos i)), i, ?_, fun j hj => ?_⟩
        · exact (faultAt?_succ l ls).symm.trans hi
        · exact (faultAt?_succ l ls).symm.trans (hbefore (j + 1) (Nat.succ_lt_succ hj))

theorem splitLines_cases (s : Text) :
    Text.splitLines s = (textLines s).1 ∨ Text.splitLines s = (textLines s).1 ++ [[]] := by
  by_cases hs : s = []
  · subst hs
    exact .inr rfl
  rcases textLines_cases hs with ⟨ls, hls, ht⟩ | ⟨-, ht⟩
  · exact .inr (by rw [hls, ht])
  · exact .inl (by rw [ht])

theorem faultAt?_append_nil (ls : List Text) : faultAt? opened n (ls ++ [[]]) i = faultAt? opened n ls i := by
  rcases Nat.lt_or_ge i ls.length with hi | hi
  · rw [faultAt?, faultAt?, List.getElem?_append_left hi, List.take_append_of_le_length hi.le]
  · rw [faultAt?, faultAt?, List.getElem?_append_right hi, List.getElem?_eq_none hi]
    rcases Nat.eq_zero_or_pos (i - ls.length) with h | h
    · rw [h]
      rfl
    · rw [List.getElem?_eq_none (Nat.succ_le_of_lt h)]
      rfl

theorem parse_eq_error_iff (hfit : ∀ l ∈ Text.splitLines s, EscapesFit l ∧ NumeralsFit l) :
    Diff.parse s = .error f ↔
      ∃ i, faultAt? false 1 (Text.splitLines s) i = some f ∧
        ∀ j < i, faultAt? false 1 (Text.splitLines s) j = none := by
  rw [← failure?_eq_some, failure?_parse]
  rcases splitLines_cases s with h | h
  · rw [h] at hfit ⊢
    exact fault?_outline hfit
  · rw [h] at hfit ⊢
    simp only [faultAt?_append_nil]
    exact fault?_outline fun l hl => hfit l (List.mem_append_left _ hl)

theorem exists_parse_error (hfit : ∀ l ∈ Text.splitLines s, EscapesFit l ∧ NumeralsFit l)
    (h : faultAt? false 1 (Text.splitLines s) i = some f) :
    ∃ j ≤ i, ∃ g, faultAt? false 1 (Text.splitLines s) j = some g ∧ Diff.parse s = .error g := by
  classical
  have hex : ∃ j, faultAt? false 1 (Text.splitLines s) j ≠ none := ⟨i, by simp [h]⟩
  obtain ⟨g, hg⟩ := Option.ne_none_iff_exists'.mp (Nat.find_spec hex)
  refine ⟨Nat.find hex, Nat.find_min' hex (by simp [h]), g, hg, (parse_eq_error_iff hfit).mpr ⟨_, hg, fun j hj => ?_⟩⟩
  exact not_not.mp (Nat.find_min hex hj)

/-- The line at a place begins with `@@`, and no section was opened before it or it is no hunk header. -/
inductive Offends (ls : List Text) (i : ℕ) : DiffProblem → Prop
  | stray {l : Text} (hl : ls[i]? = some l) (hopens : opensHunk l = true)
      (hbefore : ∀ k ∈ ls.take i, opensSection k = false) : Offends ls i .strayHunk
  | malformed {l : Text} (hl : ls[i]? = some l) (hopens : opensHunk l = true)
      (hbefore : ∃ k ∈ ls.take i, opensSection k = true) (hform : ¬IsHunkHeader l) : Offends ls i (.badHunkHeader l)

theorem Offends.not_misread {l : Text} (h : Offends ls i p) (hl : ls[i]? = some l) : ¬Misread l := by
  obtain ⟨k, hk, hopens⟩ : ∃ k, ls[i]? = some k ∧ opensHunk k = true := by
    cases h with
    | stray hk hopens _ => exact ⟨_, hk, hopens⟩
    | malformed hk hopens _ _ => exact ⟨_, hk, hopens⟩
  obtain rfl : k = l := Option.some.inj (hk.symm.trans hl)
  rintro ⟨hs, -⟩
  rw [opensSection_of_opensHunk hopens] at hs
  cases hs

theorem faultAt?_of_offends (h : Offends ls i p) : faultAt? false 1 ls i = some (.diff (some (i + 1)) p) := by
  cases h with
  | stray hl hopens hbefore =>
    have hnone : (ls.take i).any opensSection = false := List.any_eq_false.mpr fun k hk => by simp [hbefore k hk]
    simp [faultAt?, hl, lineFault?, opensSection_of_opensHunk hopens, hopens, hnone, Nat.add_comm]
  | malformed hl hopens hbefore hform =>
    have hsome : (ls.take i).any opensSection = true := List.any_eq_true.mpr hbefore
    simp [faultAt?, hl, lineFault?, opensSection_of_opensHunk hopens, hopens, hsome, hform, Nat.add_comm]

theorem faultAt?_of_misread {l : Text} (hfit : EscapesFit l) (hl : ls[i]? = some l) (h : Misread l) :
    faultAt? false 1 ls i = some .byteRange := by
  rcases hfit.headerPaths_cases h.1 with ⟨-, hnot⟩ | ⟨herror, -⟩
  · exact absurd h hnot
  · simp [faultAt?, hl, lineFault?, h.1, herror, failure?]

theorem faultAt?_cases (hfit : ∀ l ∈ ls, EscapesFit l) (h : faultAt? false 1 ls i = some f) :
    (∃ p, Offends ls i p ∧ f = .diff (some (i + 1)) p) ∨ ∃ l, ls[i]? = some l ∧ Misread l ∧ f = .byteRange := by
  obtain ⟨l, hl, hfault⟩ := Option.bind_eq_some_iff.mp h
  rw [Bool.false_or, Nat.add_comm, lineFault?] at hfault
  split at hfault
  · next hs =>
    rcases (hfit l (List.mem_of_getElem? hl)).headerPaths_cases hs with ⟨⟨paths, hpaths⟩, -⟩ | ⟨herror, hmisread⟩
    · rw [hpaths] at hfault
      cases hfault
    · rw [herror] at hfault
      cases hfault
      exact .inr ⟨l, hl, hmisread, rfl⟩
  split at hfault
  · next hh =>
    split at hfault
    · next hnone =>
      cases hfault
      refine .inl ⟨_, .stray hl hh fun k hk => ?_, rfl⟩
      exact Bool.eq_false_iff.mpr fun hk' => hnone (List.any_eq_true.mpr ⟨k, hk, hk'⟩)
    · next hsome =>
      split at hfault
      · cases hfault
      · next hform =>
        cases hfault
        exact .inl ⟨_, .malformed hl hh (List.any_eq_true.mp (not_not.mp hsome)) hform, rfl⟩
  · cases hfault

/-- Where escapes are bytes and numerals are not too long, reading fails exactly when some line begins with `@@` and
stands before all sections or is no hunk header, or when a name is quoted twice. Of the lines of the first kind the
first one is told with its number and what is wrong with it, unless a name that is quoted twice comes before it. -/
theorem parse_faults (hescapes : EscapesFit s) (hnumerals : ∀ l ∈ Text.splitLines s, NumeralsFit l) :
    ((∃ f, Diff.parse s = .error f) ↔
      (∃ i p, Offends (Text.splitLines s) i p) ∨ ∃ l ∈ Text.splitLines s, Misread l) ∧
    (∀ i p, Offends (Text.splitLines s) i p → (∀ j < i, ∀ q, ¬Offends (Text.splitLines s) j q) →
      (∀ l ∈ (Text.splitLines s).take i, ¬Misread l) → Diff.parse s = .error (.diff (some (i + 1)) p)) ∧
    ∀ i l, (Text.splitLines s)[i]? = some l → Misread l → (∀ j < i, ∀ q, ¬Offends (Text.splitLines s) j q) →
      Diff.parse s = .error .byteRange := by
  have hlines : ∀ l ∈ Text.splitLines s, EscapesFit l := fun l hl =>
    hescapes.of_infix (Text.infix_of_mem_splitLines hl)
  have hfit : ∀ l ∈ Text.splitLines s, EscapesFit l ∧ NumeralsFit l := fun l hl => ⟨hlines l hl, hnumerals l hl⟩
  refine ⟨⟨?_, ?_⟩, fun i p hi hbefore hread => ?_, fun i l hl hmisread hbefore => ?_⟩
  · rintro ⟨f, hf⟩
    obtain ⟨i, hi, -⟩ := (parse_eq_error_iff hfit).mp hf
    rcases faultAt?_cases hlines hi with ⟨p, hp, -⟩ | ⟨l, hl, hmisread, -⟩
    · exact .inl ⟨i, p, hp⟩
    · exact .inr ⟨l, List.mem_of_getElem? hl, hmisread⟩
  · rintro (⟨i, p, hp⟩ | ⟨l, hl, hmisread⟩)
    · obtain ⟨-, -, g, -, hg⟩ := exists_parse_error hfit (faultAt?_of_offends hp)
      exact ⟨g, hg⟩
    · obtain ⟨i, hi⟩ := List.mem_iff_getElem?.mp hl
      obtain ⟨-, -, g, -, hg⟩ := exists_parse_error hfit (faultAt?_of_misread (hlines l hl) hi hmisread)
      exact ⟨g, hg⟩
  · refine (parse_eq_error_iff hfit).mpr ⟨i, faultAt?_of_offends hi, fun j hj => ?_⟩
    by_contra hfault
    obtain ⟨f, hf⟩ := Option.ne_none_iff_exists'.mp hfault
    rcases faultAt?_cases hlines hf with ⟨q, hq, -⟩ | ⟨l, hl, hmisread, -⟩
    · exact hbefore j hj q hq
    · exact hread l (List.mem_of_getElem? ((List.getElem?_take_of_lt hj).trans hl)) hmisread
  · obtain ⟨j, hj, g, hg, hparse⟩ :=
      exists_parse_error hfit (faultAt?_of_misread (hlines l (List.mem_of_getElem? hl)) hl hmisread)
    rcases faultAt?_cases hlines hg with ⟨q, hq, -⟩ | ⟨-, -, -, rfl⟩
    · rcases hj.lt_or_eq with hlt | rfl
      · exact absurd hq (hbefore j hlt q)
      · exact absurd hmisread (hq.not_misread hl)
    · exact hparse

def brokenText : Text := "note\ndiff --git a/x b/x\n@@ -1 +1 @@ f\n-a\n+b\n@@ -3 @@\n"

theorem parse_faults_brokenText :
    EscapesFit brokenText ∧ (∀ l ∈ Text.splitLines brokenText, NumeralsFit l) ∧
      Offends (Text.splitLines brokenText) 5 (.badHunkHeader "@@ -3 @@") ∧
      Diff.parse brokenText = .error (.diff (some 6) (.badHunkHeader "@@ -3 @@")) := by
  have hescapes : EscapesFit brokenText := by decide +kernel
  have hshort : ∀ l ∈ Text.splitLines brokenText, l.length ≤ 30 := by decide +kernel
  have hnumerals : ∀ l ∈ Text.splitLines brokenText, NumeralsFit l := fun l hl =>
    numeralsFit_of_length_le ((hshort l hl).trans (by decide))
  have hoffends : Offends (Text.splitLines brokenText) 5 (.badHunkHeader "@@ -3 @@") :=
    .malformed (by decide +kernel) (by decide) (by decide +kernel) (by decide +kernel)
  have hnone : ∀ j < 5, (faultAt? false 1 (Text.splitLines brokenText) j).isNone = true := by decide +kernel
  have hbefore : ∀ j < 5, faultAt? false 1 (Text.splitLines brokenText) j = none := fun j hj =>
    Option.isNone_iff_eq_none.mp (hnone j hj)
  have hlines : ∀ l ∈ Text.splitLines brokenText, EscapesFit l := fun l hl =>
    hescapes.of_infix (Text.infix_of_mem_splitLines hl)
  obtain ⟨-, hfirst, -⟩ := parse_faults hescapes hnumerals
  refine ⟨hescapes, hnumerals, hoffends, hfirst 5 _ hoffends (fun j hj q hq => ?_) fun l hl hmisread => ?_⟩
  · cases (hbefore j hj).symm.trans (faultAt?_of_offends hq)
  · obtain ⟨j, hj⟩ := List.mem_iff_getElem?.mp hl
    rw [List.getElem?_take] at hj
    split at hj
    · next hlt =>
      cases (hbefore j hlt).symm.trans (faultAt?_of_misread (hlines l (List.mem_of_getElem? hj)) hj hmisread)
    · cases hj

/-- A name that is quoted again once it has been read: its escape for a backslash makes an escape of the digits behind
it. -/
def requotedText : Text := "diff --git \"\\\"\\134477\\\"\" \"b/x\"\n"

/-- No line begins with `@@`, and every escape is a byte, but the text cannot be read. -/
theorem parse_requotedText :
    EscapesFit requotedText ∧ (∀ l ∈ Text.splitLines requotedText, NumeralsFit l ∧ opensHunk l = false) ∧
      Diff.parse requotedText = .error .byteRange := by
  have hshort : ∀ l ∈ Text.splitLines requotedText, l.length ≤ 40 ∧ opensHunk l = false := by decide +kernel
  refine ⟨by decide +kernel, fun l hl => ?_, by rfl⟩
  obtain ⟨hlength, hopens⟩ := hshort l hl
  exact ⟨numeralsFit_of_length_le (hlength.trans (by decide)), hopens⟩

end RuleReview.Diff
