import RuleReview.Proofs.Diff.Slim
import RuleReview.Proofs.Diff.Readable

/-! # No change is lost

A section that is narrowed says the same about its file. It keeps the hunks with changes in their order, and of
each of them all changes among some of its other lines. Reading it again after it was written costs at most an
empty line at its end.
-/
namespace RuleReview

/-- A hunk with the changes of another one and some of its other lines. -/
structure Hunk.Narrows (k h : Hunk) : Prop where
  heading : k.heading = h.heading
  kept : k.lines.Sublist h.lines
  changes : k.lines.filter Line.isChange = h.lines.filter Line.isChange

/-- A section with the header of another one and its hunks with changes, all of them narrowed. -/
structure Section.Narrows (t s : Section) : Prop where
  facts : { t with hunks := [] } = { s with hunks := [] }
  hunks : List.Forall₂ Hunk.Narrows t.hunks (s.hunks.filter Hunk.hasChanges)

/-- The added and removed lines of a section. -/
def Section.changes (s : Section) : List Line := (s.hunks.flatMap Hunk.lines).filter Line.isChange

theorem Hunk.hasChanges_iff_filter {h : Hunk} : h.hasChanges = true ↔ h.lines.filter Line.isChange ≠ [] := by
  rw [Hunk.hasChanges, List.any_eq_true, ne_eq, List.filter_eq_nil_iff]
  push Not
  rfl

namespace Hunk.Narrows
variable {g k h : Hunk}

theorem trans (hg : g.Narrows k) (hk : k.Narrows h) : g.Narrows h :=
  ⟨hg.heading.trans hk.heading, hg.kept.trans hk.kept, hg.changes.trans hk.changes⟩

theorem hasChanges (hk : k.Narrows h) : k.hasChanges = h.hasChanges := by
  rw [Bool.eq_iff_iff, Hunk.hasChanges_iff_filter, Hunk.hasChanges_iff_filter, hk.changes]

end Hunk.Narrows

theorem Hunk.narrows_refl (h : Hunk) : h.Narrows h := ⟨rfl, List.Sublist.refl _, rfl⟩

theorem Hunk.narrows_slimmed (h : Hunk) (n : ℕ) : (h.slimmed n).Narrows h :=
  ⟨rfl, keptLines_sublist h.lines n, filter_isChange_keptLines h.lines n⟩

theorem forall₂_trans {α : Type} {R : α → α → Prop} (hR : ∀ a b c, R a b → R b c → R a c) {as bs cs : List α}
    (hab : List.Forall₂ R as bs) (hbc : List.Forall₂ R bs cs) : List.Forall₂ R as cs := by
  induction hab generalizing cs with
  | nil => exact hbc
  | cons hab _ ih =>
    obtain ⟨c, cs, hc, hcs, rfl⟩ := List.forall₂_cons_left_iff.mp hbc
    exact .cons (hR _ _ _ hab hc) (ih hcs)

theorem hasChanges_of_narrows {ks hs : List Hunk} (hk : List.Forall₂ Hunk.Narrows ks hs)
    (hh : ∀ h ∈ hs, h.hasChanges = true) : ∀ k ∈ ks, k.hasChanges = true := by
  induction hk with
  | nil => exact hh
  | cons hkh _ ih =>
    obtain ⟨hc, hh⟩ := List.forall_mem_cons.mp hh
    exact List.forall_mem_cons.mpr ⟨hkh.hasChanges.trans hc, ih hh⟩

theorem changes_of_narrows {ks hs : List Hunk} (hk : List.Forall₂ Hunk.Narrows ks hs) :
    (ks.flatMap Hunk.lines).filter Line.isChange = (hs.flatMap Hunk.lines).filter Line.isChange := by
  induction hk with
  | nil => rfl
  | cons hkh _ ih => simp only [List.flatMap_cons, List.filter_append, hkh.changes, ih]

theorem changes_filter_hasChanges (hs : List Hunk) :
    ((hs.filter Hunk.hasChanges).flatMap Hunk.lines).filter Line.isChange =
      (hs.flatMap Hunk.lines).filter Line.isChange := by
  induction hs with
  | nil => rfl
  | cons h hs ih =>
    by_cases hc : h.hasChanges = true
    · simp only [List.filter_cons, hc, if_true, List.flatMap_cons, List.filter_append, ih]
    · have hnone : h.lines.filter Line.isChange = [] := by
        rw [Hunk.hasChanges_iff_filter, not_not] at hc
        exact hc
      rw [List.filter_cons_of_neg hc, List.flatMap_cons, List.filter_append, hnone, List.nil_append, ih]

namespace Section.Narrows
variable {u t s : Section}

theorem header (h : t.Narrows s) : t.header = s.header := by
  have hheader := congrArg Section.header h.facts
  exact hheader

theorem hasChanges (h : t.Narrows s) : ∀ k ∈ t.hunks, k.hasChanges = true :=
  hasChanges_of_narrows h.hunks fun _ hh => (List.mem_filter.mp hh).2

theorem changes_eq (h : t.Narrows s) : t.changes = s.changes := by
  rw [Section.changes, changes_of_narrows h.hunks, changes_filter_hasChanges, Section.changes]

theorem trans (hu : u.Narrows t) (ht : t.Narrows s) : u.Narrows s := by
  refine ⟨hu.facts.trans ht.facts, ?_⟩
  have hall : t.hunks.filter Hunk.hasChanges = t.hunks := List.filter_eq_self.mpr ht.hasChanges
  exact forall₂_trans (fun _ _ _ hg hk => hg.trans hk) (hall ▸ hu.hunks) ht.hunks

end Section.Narrows

theorem Section.narrows_refl {s : Section} (h : ∀ k ∈ s.hunks, k.hasChanges = true) : s.Narrows s := by
  refine ⟨rfl, ?_⟩
  rw [List.filter_eq_self.mpr h]
  exact List.forall₂_same.mpr fun k _ => k.narrows_refl

theorem Section.narrows_slimmed (s : Section) (n : ℕ) : (s.slimmed n).Narrows s := by
  refine ⟨rfl, ?_⟩
  exact List.forall₂_map_left_iff.mpr (List.forall₂_same.mpr fun h _ => h.narrows_slimmed n)

namespace Diff

/-- The text of a diff that does not show its last line, which is empty, is that of the diff without this line. -/
theorem linesText_append_nil {ls : List Text} (hne : ls ≠ []) :
    linesText (ls ++ [[]]) false = linesText ls true := by
  simp [linesText, hne, Text.joinLines_append_nil hne]

/-- Every section of the diff has hunks, and they all have changes. -/
def IsNarrow (d : Diff) : Prop := ∀ s ∈ d.sections, s.hunks ≠ [] ∧ ∀ h ∈ s.hunks, h.hasChanges = true

theorem isNarrow_slim (d : Diff) (n : ℕ) : (d.slim n).IsNarrow := by
  intro t ht
  rw [sections_slim] at ht
  obtain ⟨s, hs, rfl⟩ := List.mem_map.mp ht
  exact ⟨Section.hunks_slimmed_ne_nil_iff.mpr (List.mem_filter.mp hs).2, (s.narrows_slimmed n).hasChanges⟩

/-- An empty line at the end of a narrow diff is a line of its last hunk, and goes without a change. -/
theorem exists_dropLast {p : Diff} (hr : p.Readable) (hp : p.IsNarrow) (hne : p.sections ≠ [])
    (hlast : p.allLines.getLast? = some []) :
    ∃ e : Diff, e.Readable ∧ e.sections ≠ [] ∧ e.preamble = p.preamble ∧ e.endsWithNewline = true ∧
      p.allLines = e.allLines ++ [[]] ∧ List.Forall₂ Section.Narrows e.sections p.sections := by
  obtain ⟨ss, s, hss⟩ := (List.eq_nil_or_concat p.sections).resolve_left hne
  have hs : s ∈ p.sections := by simp [hss]
  obtain ⟨hhne, hcs⟩ := hp s hs
  obtain ⟨hs', h, hhs⟩ := (List.eq_nil_or_concat s.hunks).resolve_left hhne
  have hh : h ∈ s.hunks := by simp [hhs]
  have hlne : h.lines ≠ [] := by
    intro hnil
    have hc := hcs h hh
    simp [Hunk.hasChanges, hnil] at hc
  obtain ⟨ls, l, hls⟩ := (List.eq_nil_or_concat h.lines).resolve_left hlne
  have hl : l = [] := by
    simpa [Diff.allLines, hss, Section.allLines, hhs, Hunk.allLines, hls, List.getLast?_cons] using hlast
  subst hl
  let k : Hunk := { h with lines := ls }
  let t : Section := { s with hunks := hs' ++ [k] }
  have hk : k.Narrows h := by
    refine ⟨rfl, ?_, ?_⟩
    · simp [k, hls]
    · simp [k, hls, Line.isChange, Line.kind]
  have hkread : k.Readable := ((hr.sections s hs).hunks h hh).withLines (by simp [hls])
  have htread : t.Readable := by
    refine (hr.sections s hs).withHunks fun g hg => ?_
    rcases List.mem_append.mp hg with hg | hg
    · exact (hr.sections s hs).hunks g (by simp [hhs, hg])
    · exact List.mem_singleton.mp hg ▸ hkread
  have ht : t.Narrows s := by
    refine ⟨rfl, ?_⟩
    rw [List.filter_eq_self.mpr hcs, hhs, List.concat_eq_append]
    exact List.rel_append (List.forall₂_same.mpr fun g _ => g.narrows_refl) (.cons hk .nil)
  refine ⟨⟨ss ++ [t], p.preamble, true⟩, ⟨hr.preamble, fun u hu => ?_⟩, by simp, rfl, rfl, ?_, ?_⟩
  · rcases List.mem_append.mp hu with hu | hu
    · exact hr.sections u (by simp [hss, hu])
    · exact List.mem_singleton.mp hu ▸ htread
  · simp [Diff.allLines, hss, Section.allLines, t, hhs, Hunk.allLines, k, hls]
  · dsimp only
    rw [hss, List.concat_eq_append]
    refine List.rel_append (List.forall₂_same.mpr fun u hu => ?_) (.cons ht .nil)
    exact Section.narrows_refl (hp u (by simp [hss, hu])).2

theorem IsNarrow.exists_parse {p : Diff} (hp : p.IsNarrow) (hr : p.Readable)
    (hpre : p.sections = [] → p.preamble = []) :
    ∃ e, Diff.parse p.serialize = .ok e ∧ e.serialize = p.serialize ∧ e.preamble = p.preamble ∧
      List.Forall₂ Section.Narrows e.sections p.sections := by
  by_cases hne : p.sections = []
  · have hlines : p.allLines = [] := by rw [Diff.allLines, hne, hpre hne, List.flatMap_nil, List.append_nil]
    have htext : p.serialize = [] := by
      rw [Diff.serialize, hlines]
      rfl
    refine ⟨⟨[], [], false⟩, ?_, htext.symm, (hpre hne).symm, ?_⟩
    · rw [htext]
      rfl
    · rw [hne]
      exact .nil
  by_cases hend : p.endsWithNewline = true ∨ p.allLines.getLast? ≠ some []
  · refine ⟨p, hr.parse_serialize (hr.allLines_ne_nil hne) hend, rfl, rfl, ?_⟩
    exact List.forall₂_same.mpr fun s hs => Section.narrows_refl (hp s hs).2
  · obtain ⟨hended, hlast⟩ := not_or.mp hend
    rw [Bool.not_eq_true] at hended
    obtain ⟨e, hread, hes, hpreamble, hee, hlines, hnarrow⟩ := exists_dropLast hr hp hne (not_not.mp hlast)
    have hele := hread.allLines_ne_nil hes
    have htext : p.serialize = e.serialize := by
      rw [serialize_eq, serialize_eq, hlines, hended, hee, linesText_append_nil hele]
    exact ⟨e, htext ▸ hread.parse_serialize hele (.inl hee), htext.symm, hpreamble, hnarrow⟩

end Diff

end RuleReview
