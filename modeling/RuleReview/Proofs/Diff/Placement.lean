import RuleReview.Proofs.Diff.Narrowing
import RuleReview.Proofs.Diff.Trim

/-! # The numbers of kept lines

A hunk numbers the lines of each side from the start that its header states. Narrowing moves the starts past the
lines before the first kept one, but a header has no room for a gap: a kept line loses one number for every line
of the side that is dropped between the first kept line and it.
-/
namespace RuleReview

/-- The file before a change, and the file after it. -/
inductive Side where
  | old
  | new
  deriving DecidableEq, Repr

def Line.isOn : Side → Line → Bool
  | .old => Line.inOld
  | .new => Line.inNew

def Hunk.start (h : Hunk) : Side → Int
  | .old => h.oldStart
  | .new => h.newStart

/-- The number that a hunk gives to the line at a place, if the line is on the side. -/
def Hunk.lineNumber? (h : Hunk) (side : Side) (i : ℕ) : Option Int :=
  if h.lines[i]?.any (Line.isOn side) then some (h.start side + (h.lines.take i).countP (Line.isOn side)) else none

/-- The lines that are dropped between the first kept one and a place. -/
def droppedLines (ls : List Line) (n i : ℕ) : List Line :=
  ((List.range' (firstKept ls n) (i - firstKept ls n)).filter (!keeps ls n ·)).filterMap (ls[·]?)

variable {ls : List Line} {n i : ℕ}

theorem firstKept_le (h : keeps ls n i = true) : firstKept ls n ≤ i := by
  obtain ⟨j, hj, _⟩ := exists_changeAt_of_keeps h
  by_contra hlt
  have hnot := (firstKept_spec n hj).2 i (Nat.lt_of_not_le hlt)
  rw [h] at hnot
  cases hnot

/-- Before a kept line come the lines before the first kept one, and then kept and dropped lines. -/
theorem countP_take_of_keeps (p : Line → Bool) (h : keeps ls n i = true) :
    (ls.take i).countP p = (skippedLines ls n).countP p + ((keptLines ls n).take (keptRank ls n i)).countP p +
      (droppedLines ls n i).countP p := by
  obtain ⟨k, hk⟩ := Nat.exists_eq_add_of_le (firstKept_le h)
  let rest := List.range' (firstKept ls n) (i - firstKept ls n)
  have hplaces : List.range i = List.range (firstKept ls n) ++ rest := by
    simp only [rest]
    rw [hk, List.range_add, Nat.add_sub_cancel_left, List.range'_eq_map_range]
  have hskipped : (List.range (firstKept ls n)).filter (keeps ls n) = [] := by
    obtain ⟨j, hj, _⟩ := exists_changeAt_of_keeps h
    rw [List.filter_eq_nil_iff]
    intro a ha
    simp [(firstKept_spec n hj).2 a (List.mem_range.mp ha)]
  have hkept : (keptLines ls n).take (keptRank ls n i) = (rest.filter (keeps ls n)).filterMap (ls[·]?) := by
    rw [keptLines_eq_map, ← List.map_take, keptPlaces, take_filter_range _ (lt_length_of_keeps h).le, hplaces,
      List.filter_append, hskipped, List.nil_append]
    exact (filterMap_eq_map_of_keeps fun a ha => (List.mem_filter.mp ha).2).symm
  have hall : ls.take i = skippedLines ls n ++ rest.filterMap (ls[·]?) := by
    rw [← filterMap_range, hplaces, List.filterMap_append, filterMap_range, skippedLines_eq]
  rw [hall, hkept, droppedLines, List.countP_append, Nat.add_assoc, List.countP_filterMap, List.countP_filterMap,
    List.countP_filterMap, List.countP_eq_countP_filter_add rest _ (keeps ls n)]

theorem Hunk.lineNumber?_slimmed {h : Hunk} (hi : keeps h.lines n i = true) (side : Side) :
    (h.slimmed n).lineNumber? side (keptRank h.lines n i) =
      (h.lineNumber? side i).map (· - ((droppedLines h.lines n i).countP (Line.isOn side) : Int)) := by
  have hline : (h.slimmed n).lines[keptRank h.lines n i]? = h.lines[i]? := getElem?_keptLines hi
  have hstart : (h.slimmed n).start side = h.start side + (skippedLines h.lines n).countP (Line.isOn side) := by
    cases side <;> rfl
  have hlines : (h.slimmed n).lines = keptLines h.lines n := rfl
  have hcount := countP_take_of_keeps (Line.isOn side) hi
  rw [Hunk.lineNumber?, Hunk.lineNumber?, hline, hstart, hlines]
  by_cases hside : h.lines[i]?.any (Line.isOn side) = true
  · rw [if_pos hside, if_pos hside, Option.map_some, Option.some_inj]
    omega
  · rw [if_neg hside, if_neg hside, Option.map_none]

/-- A hunk is narrowed to another one when it has changes and the numbers of the other one can be written. -/
theorem Hunk.narrow_eq_some {h k : Hunk} :
    h.narrow n = .ok (some k) ↔ h.hasChanges = true ∧ (h.slimmed n).isWritable = true ∧ k = h.slimmed n := by
  rw [Hunk.narrow_natCast, Hunk.slim?]
  by_cases hc : h.hasChanges = true
  · by_cases hw : (h.slimmed n).isWritable = true
    · simp [hc, hw, eq_comm]
    · simp [hc, hw]
  · simp [hc]

/-- Every line of a narrowed hunk is a kept line of the hunk. Its number is the one that it had, less the lines of
the side that are dropped between the first kept line and it; so a line of a side has its number still exactly when
no line of the side was dropped there. -/
theorem Hunk.lineNumber?_narrow {s : Text} {d : Diff} (hd : Diff.parse s = .ok d) {t : Section}
    (ht : t ∈ d.sections) {h : Hunk} (hh : h ∈ t.hunks) (n : ℕ) {k : Hunk} (hk : h.narrow n = .ok (some k)) :
    (∀ number, Diff.readHunk ⟨k.header, number, k.lines⟩ = .ok k) ∧
    ∀ r < k.lines.length, ∃ i, keeps h.lines n i = true ∧ keptRank h.lines n i = r ∧ k.lines[r]? = h.lines[i]? ∧
      ∀ side, k.lineNumber? side r =
          (h.lineNumber? side i).map (· - ((droppedLines h.lines n i).countP (Line.isOn side) : Int)) ∧
        (k.lineNumber? side r = h.lineNumber? side i ↔
          h.lineNumber? side i = none ∨ ∀ l ∈ droppedLines h.lines n i, Line.isOn side l = false) := by
  obtain ⟨_, hw, rfl⟩ := Hunk.narrow_eq_some.mp hk
  have hread := ((Diff.readable_of_parse hd).sections t ht).hunks h hh
  refine ⟨(hread.slimmed hw).reads, fun r hr => ?_⟩
  obtain ⟨i, hi, rfl⟩ := exists_keeps_of_lt hr
  refine ⟨i, hi, rfl, getElem?_keptLines hi, fun side => ?_⟩
  have hnumber := Hunk.lineNumber?_slimmed hi side
  refine ⟨hnumber, ?_⟩
  have hnone : (∀ l ∈ droppedLines h.lines n i, Line.isOn side l = false) ↔
      (droppedLines h.lines n i).countP (Line.isOn side) = 0 := by
    simp [List.countP_eq_zero]
  rw [hnumber, hnone]
  cases h.lineNumber? side i with
  | none => simp
  | some a =>
    rw [Option.map_some, Option.some_inj]
    simp only [reduceCtorEq, false_or]
    omega

/-- Two changed lines with two lines between them. -/
def gapText : Text := "diff --git a/x b/x\n@@ -1,4 +1,4 @@\n-a\n+A\n b\n c\n-d\n+D\n"

def gapHunk : Hunk := ⟨1, 4, 1, 4, "", "@@ -1,4 +1,4 @@", ["-a", "+A", " b", " c", "-d", "+D"]⟩

def gapDiff : Diff where
  sections := [{ header := ["diff --git a/x b/x"], hunks := [gapHunk], oldPath := some "x", newPath := some "x" }]
  preamble := []
  endsWithNewline := true

theorem parse_gapText : Diff.parse gapText = .ok gapDiff := by rfl

theorem narrow_gapHunk : gapHunk.narrow (0 : ℕ) = .ok (some (gapHunk.slimmed 0)) :=
  Hunk.narrow_eq_some.mpr ⟨by decide, by decide +kernel, rfl⟩

/-- The last line of the hunk moves from place 4 of the new file to place 2 when the lines between the changes go. -/
theorem Hunk.lineNumber?_gap :
    Diff.parse gapText = .ok gapDiff ∧ gapHunk ∈ gapDiff.sections.flatMap Section.hunks ∧
      gapHunk.narrow (0 : ℕ) = .ok (some (gapHunk.slimmed 0)) ∧ keeps gapHunk.lines 0 5 = true ∧
      (gapHunk.slimmed 0).lines[3]? = gapHunk.lines[5]? ∧ gapHunk.lines[5]? = some "+D".toList ∧
      gapHunk.lineNumber? .new 5 = some 4 ∧ (gapHunk.slimmed 0).lineNumber? .new 3 = some 2 :=
  ⟨parse_gapText, by decide +kernel, narrow_gapHunk, by decide +kernel, by decide +kernel, by decide +kernel,
    by decide +kernel, by decide +kernel⟩

theorem Hunk.lineNumber?_narrow_gapHunk :
    ∃ i, keeps gapHunk.lines 0 i = true ∧ keptRank gapHunk.lines 0 i = 3 ∧
      (gapHunk.slimmed 0).lineNumber? .new 3 =
        (gapHunk.lineNumber? .new i).map (· - ((droppedLines gapHunk.lines 0 i).countP (Line.isOn .new) : Int)) := by
  obtain ⟨_, hlines⟩ :=
    Hunk.lineNumber?_narrow parse_gapText (List.mem_singleton.mpr rfl) (List.mem_singleton.mpr rfl) 0 narrow_gapHunk
  obtain ⟨i, hi, hrank, _, hnumber⟩ := hlines 3 (by decide +kernel)
  exact ⟨i, hi, hrank, (hnumber .new).1⟩

end RuleReview
