import RuleReview.Diff.Restrict
import RuleReview.Proofs.Diff.Readable
import RuleReview.Proofs.Diff.Slim

/-! # Trimming a diff

A diff is trimmed by narrowing it to a window and by restricting it to some paths, in any order and any number of
times. Each step keeps a diff readable, so that whatever is left is read from its own text as it stands.
-/
namespace RuleReview

/-- The numbers of a readable hunk are natural, and so are those of what is left of it. -/
theorem Hunk.Readable.slimmed {h : Hunk} (hr : h.Readable) {n : ℕ} (hw : (h.slimmed n).isWritable = true) :
    (h.slimmed n).Readable := by
  obtain ⟨hos, _, hns, _, hheading⟩ := Diff.readHunk_eq_ok (hr.reads 0)
  obtain ⟨a, ha⟩ := Int.eq_ofNat_of_zero_le hos
  obtain ⟨c, hc⟩ := Int.eq_ofNat_of_zero_le hns
  have hostart : (h.slimmed n).oldStart = ((a + (skippedLines h.lines n).countP Line.inOld : ℕ) : ℤ) := by
    simp [Hunk.slimmed, ha]
  have hnstart : (h.slimmed n).newStart = ((c + (skippedLines h.lines n).countP Line.inNew : ℕ) : ℤ) := by
    simp [Hunk.slimmed, hc]
  have hheader : (h.slimmed n).header = Hunk.formatHeader (h.slimmed n).oldStart (h.slimmed n).oldCount
      (h.slimmed n).newStart (h.slimmed n).newCount (h.slimmed n).heading := rfl
  have hbreak : '\n' ∉ (h.slimmed n).heading := fun hb => hr.noBreak (hheading.subset hb)
  refine ⟨?_, ?_, Diff.readHunk_formatHeader hostart rfl hnstart rfl hw hheader, fun l hl => ?_⟩
  · rw [hheader, hostart, hnstart]
    exact Diff.opensHunk_formatHeader _ _ _ _ _
  · rw [hheader, hostart, hnstart]
    exact Diff.newline_notMem_formatHeader _ _ _ _ hbreak
  · exact hr.plain l ((keptLines_sublist h.lines n).subset hl)

theorem Section.Readable.slimmed {s : Section} (hr : s.Readable) {n : ℕ}
    (hw : ∀ h ∈ (s.slimmed n).hunks, h.isWritable = true) : (s.slimmed n).Readable := by
  refine hr.withHunks fun k hk => ?_
  obtain ⟨h, hh, rfl⟩ := List.mem_map.mp hk
  exact (hr.hunks h (List.mem_of_mem_filter hh)).slimmed (hw _ hk)

namespace Diff

theorem Readable.withSections {d : Diff} (hr : d.Readable) {ss : List Section} (hss : ∀ s ∈ ss, s.Readable) :
    (d.withSections ss).Readable := by
  refine ⟨fun l hl => ?_, hss⟩
  rw [Diff.withSections] at hl
  dsimp only at hl
  split at hl
  · cases hl
  · exact hr.preamble l hl

theorem Readable.restrict {d : Diff} (hr : d.Readable) (paths : List Text) : (d.restrict paths).Readable :=
  hr.withSections fun s hs => hr.sections s (List.mem_of_mem_filter hs)

theorem Readable.narrow {d e : Diff} (hr : d.Readable) {n : ℕ} (h : d.narrow n = .ok e) : e.Readable := by
  obtain ⟨hw, rfl⟩ := narrow_eq_ok.mp h
  refine hr.withSections fun t ht => ?_
  change t ∈ (d.slim n).sections at ht
  have hwt := isWritable_iff.mp hw t ht
  rw [sections_slim] at ht
  obtain ⟨s, hs, rfl⟩ := List.mem_map.mp ht
  exact (hr.sections s (List.mem_of_mem_filter hs)).slimmed hwt

end Diff

/-- One way to make a diff smaller. -/
inductive Trim where
  | window (n : ℕ)
  | among (paths : List Text)

def Trim.apply (d : Diff) : Trim → Except Failure Diff
  | .window n => d.narrow n
  | .among paths => .ok (d.restrict paths)

/-- The diff after some steps, each on what the one before it left. -/
def Diff.trim (d : Diff) (ts : List Trim) : Except Failure Diff := ts.foldlM Trim.apply d

namespace Diff

theorem readable_of_apply {d e : Diff} {t : Trim} (hr : d.Readable) (h : t.apply d = .ok e) : e.Readable := by
  cases t with
  | window n => exact hr.narrow h
  | among paths =>
    cases h
    exact hr.restrict paths

theorem readable_of_trim {d e : Diff} {ts : List Trim} (hr : d.Readable) (h : d.trim ts = .ok e) : e.Readable :=
  foldlM_invariant Readable (fun _ _ _ hd he => readable_of_apply hd he) hr h

theorem failure_of_trim {d : Diff} {ts : List Trim} {f : Failure} (h : d.trim ts = .error f) :
    f = .numeral .unwritable := by
  induction ts generalizing d with
  | nil => cases h
  | cons t ts ih =>
    rcases bind_eq_error.mp h with ht | ⟨e, _, he⟩
    · cases t with
      | window n =>
        rw [Trim.apply, narrow_natCast] at ht
        split at ht
        · cases ht
        · cases ht
          rfl
      | among paths => cases ht
    · exact ih he

/-- Whatever is left of a diff that was read is read from its own text again, in every field, unless its last line
is empty and nothing ends it. Nothing but a number that is too long to be written keeps a diff from being
trimmed. -/
theorem parse_serialize_trim {s : Text} {d : Diff} (hd : Diff.parse s = .ok d) (ts : List Trim) :
    (∀ f, d.trim ts = .error f → f = .numeral .unwritable) ∧
    ∀ p, d.trim ts = .ok p → p.sections ≠ [] →
      (p.endsWithNewline = true ∨ ∃ l, p.allLines.getLast? = some l ∧ l ≠ []) →
      Diff.parse p.serialize = .ok p := by
  refine ⟨fun f hf => failure_of_trim hf, fun p hp hne hend => ?_⟩
  have hr : p.Readable := readable_of_trim (readable_of_parse hd) hp
  refine hr.parse_serialize (hr.allLines_ne_nil hne) (hend.imp_right ?_)
  rintro ⟨l, hl, hlne⟩ hlast
  rw [hlast] at hl
  cases hl
  exact hlne rfl

theorem parse_serialize_trim_sample :
    ∃ p, sampleDiff.trim [.window 0, .among ["y"]] = .ok p ∧ p.sections ≠ [] ∧ p.endsWithNewline = true ∧
      Diff.parse p.serialize = .ok p := by
  have hnarrow : sampleDiff.narrow 0 = .ok (sampleDiff.slim 0) := narrow_eq_ok.mpr ⟨by decide +kernel, rfl⟩
  have htrim : sampleDiff.trim [.window 0, .among ["y"]] = .ok ((sampleDiff.slim 0).restrict ["y"]) := by
    simp [trim, Trim.apply, hnarrow, bind, Except.bind, pure, Except.pure]
  have hne : ((sampleDiff.slim 0).restrict ["y"]).sections ≠ [] := by decide +kernel
  refine ⟨_, htrim, hne, rfl, ?_⟩
  exact (parse_serialize_trim parse_sample [.window 0, .among ["y"]]).2 _ htrim hne (.inl rfl)

end Diff

end RuleReview
